/-
  Converge.Proofs.Streaming
  ─────────────────────────
  **A FILE READ IN PIECES HAS THE DIGEST OF ITS WHOLE CONTENT.**

  A digest is said of a whole message: the message is padded, the padded message is cut into full blocks,
  and each block is compressed in turn.  A file is not seen whole.  It is read in pieces, whose size has
  nothing to do with that of a block, until a piece is empty, and each piece is taken in as it comes.  What
  has been taken in is told by one message, whatever the pieces were, so the bytes that wait for their block
  to fill are never lost and never counted twice.

  Main results:
    * `digests_iff` — the digest as a padded message cut into blocks;
    * `update_update` — two pieces are taken in like one;
    * `turns_iff` — a file that is being read, after any number of turns;
    * `contentChanged_eq_ok_iff` — when two files differ, by the digests of their contents;
    * `pieces_digest_whole` — every reading ends, with the digest of the whole, and comparing two files
      compares the digests of their contents.
-/
import Converge.Checksum
import Converge.Proofs.Retouch
import Mathlib.Logic.Function.Basic

namespace Converge.Digest.Md5

variable {s : Chain} {message : List UInt8}

/-! ## §1. Taking in bytes. -/

/-- Bytes that fill no block are held back. -/
theorem absorb_of_short {bytes : List UInt8} (h : bytes.length < blockSize) :
    absorb s bytes = (s, bytes) := by
  unfold absorb
  have hshort : (bytes.take blockSize).length ≠ blockSize := by
    rw [List.length_take]
    omega
  rw [if_neg hshort]

/-- A full block at the front is compressed. -/
theorem absorb_block {block : List UInt8} (h : block.length = blockSize) (rest : List UInt8) :
    absorb s (block ++ rest) = absorb (compress s block) rest := by
  rw [absorb, List.take_left' h, List.drop_left' h, if_pos h]

/-- Bytes are either fewer than fill a block, or a block and what is behind it. -/
theorem block_induction {P : List UInt8 → Prop} (short : ∀ bytes, bytes.length < blockSize → P bytes)
    (block : ∀ front rest, front.length = blockSize → P rest → P (front ++ rest)) (bytes : List UInt8) :
    P bytes := by
  by_cases h : bytes.length < blockSize
  · exact short bytes h
  · have hfull : (bytes.take blockSize).length = blockSize := by
      rw [List.length_take]
      omega
    rw [← List.take_append_drop blockSize bytes]
    exact block _ _ hfull (block_induction short block (bytes.drop blockSize))
termination_by bytes.length
decreasing_by
  have hpositive : 0 < blockSize := by decide
  rw [List.length_drop]
  omega

/-- **Bytes may be taken in one part after the other**: what the first part leaves over stands in front of
    the second. -/
theorem absorb_append (s : Chain) (front back : List UInt8) :
    absorb s (front ++ back) = absorb (absorb s front).1 ((absorb s front).2 ++ back) := by
  induction front using block_induction generalizing s with
  | short front h => rw [absorb_of_short h]
  | block block rest h ih => rw [List.append_assoc, absorb_block h, absorb_block h, ih]

/-- Full blocks are compressed one by one, and nothing is left over. -/
theorem absorb_blocks {blocks : List (List UInt8)} (h : ∀ b ∈ blocks, b.length = blockSize) :
    absorb s blocks.flatten = (blocks.foldl compress s, []) := by
  induction blocks generalizing s with
  | nil => exact absorb_of_short (by decide)
  | cons block rest ih =>
    rw [List.forall_mem_cons] at h
    rw [List.flatten_cons, absorb_block h.1, ih h.2, List.foldl_cons]

/-! ## §2. The digest of a whole message. -/

theorem length_littleEndian (width n : Nat) : (littleEndian width n).length = width := by
  induction width generalizing n with
  | zero => rfl
  | succ width ih => rw [littleEndian, List.length_cons, ih]

/-- What may stand behind a message of `length` bytes: a one bit, as few zeros as leave eight bytes of the
    last block free, and the length in bits. -/
inductive Pads (length : Nat) : List UInt8 → Prop
  | intro {zeros : Nat} (few : zeros < blockSize) (free : blockSize ∣ length + 1 + zeros + 8) :
      Pads length (0x80 :: (List.replicate zeros 0 ++ littleEndian 8 (length * 8)))

/-- The number of zeros is determined. -/
theorem pads_iff {length : Nat} {tail : List UInt8} : Pads length tail ↔ tail = padding length := by
  constructor
  · intro hpads
    obtain @⟨zeros, few, free⟩ := hpads
    have hzeros : zeros = (119 - length % 64) % 64 := by
      unfold blockSize at few free
      omega
    rw [hzeros, padding]
  · intro htail
    rw [htail]
    refine .intro (Nat.mod_lt _ (by decide)) ?_
    unfold blockSize
    omega

/-- A padded message is made of full blocks. -/
theorem full_of_pads {tail : List UInt8} (h : Pads message.length tail) :
    blockSize ∣ (message ++ tail).length := by
  obtain @⟨zeros, -, free⟩ := h
  have hlength : (message ++ 0x80 :: (List.replicate zeros 0 ++
      littleEndian 8 (message.length * 8))).length = message.length + 1 + zeros + 8 := by
    rw [List.length_append, List.length_cons, List.length_append, List.length_replicate,
      length_littleEndian]
    omega
  rwa [hlength]

/-- If pieces of a size fill a message, each of them is of that size. -/
theorem length_of_mem_pieces {size : Nat} (h : size ∣ message.length) :
    ∀ b ∈ pieces size message, b.length = size := by
  fun_induction pieces size message with
  | case1 m hm => exact fun b hb => absurd hb List.not_mem_nil
  | case2 m hm ih =>
    have hsize : size ≤ m.length := by
      refine Nat.le_of_dvd (List.length_pos_iff.mpr fun hnil => hm (.inr ?_)) h
      rw [hnil, List.isEmpty_nil]
    rw [List.forall_mem_cons]
    refine ⟨List.length_take_of_le hsize, ih ?_⟩
    rw [List.length_drop]
    exact (Nat.dvd_sub_iff_left hsize (Nat.dvd_refl size)).mpr h

/-- The digest of a message: it is padded and cut into blocks, and the blocks are compressed in turn. -/
inductive Digests (message : List UInt8) : List UInt8 → Prop
  | intro {tail : List UInt8} {blocks : List (List UInt8)} (pads : Pads message.length tail)
      (cut : blocks.flatten = message ++ tail) (full : ∀ b ∈ blocks, b.length = blockSize) :
      Digests message (blocks.foldl compress Chain.initial).bytes

/-- **Every message has one digest**, the one that is computed. -/
theorem digests_iff {hash : List UInt8} : Digests message hash ↔ hash = digest message := by
  constructor
  · intro hdigests
    -- however the blocks are cut, together they are the padded message
    obtain @⟨tail, blocks, pads, cut, full⟩ := hdigests
    rw [digest, ← pads_iff.mp pads, ← cut, absorb_blocks full]
  · intro hhash
    have hpads : Pads message.length (padding message.length) := pads_iff.mpr rfl
    have hcut := flatten_pieces (show 0 < blockSize by decide) (message ++ padding message.length)
    have hfull := length_of_mem_pieces (full_of_pads hpads)
    have hdigests := Digests.intro hpads hcut hfull
    rw [hhash, digest, ← hcut, absorb_blocks hfull]
    exact hdigests

/-! ## §3. A message that arrives in pieces. -/

theorem Stream.update_eq (s : Stream) (piece : List UInt8) :
    s.update piece = ⟨(absorb s.chain (s.held ++ piece)).1, (absorb s.chain (s.held ++ piece)).2,
      s.length + piece.length⟩ := rfl

/-- **Two pieces are taken in like one.** -/
theorem Stream.update_update (s : Stream) (front back : List UInt8) :
    (s.update front).update back = s.update (front ++ back) := by
  simp only [update_eq]
  -- the bytes that were held back stand in front of the second piece
  rw [← absorb_append, List.append_assoc, List.length_append, Nat.add_assoc]

/-- An empty piece brings nothing. -/
theorem Stream.update_nil : Stream.empty.update [] = Stream.empty := by
  rw [update_eq, show Stream.empty.held ++ [] = [] from rfl, absorb_of_short (by decide)]
  rfl

/-- **One piece that is the whole message has the digest of the message.** -/
theorem Stream.finish_update (message : List UInt8) :
    (Stream.empty.update message).finish = digest message := by
  rw [finish, update_eq]
  dsimp only
  rw [← absorb_append, show Stream.empty.length + message.length = message.length from Nat.zero_add _]
  rfl

/-- Pieces are taken in like what they make up. -/
theorem Stream.foldl_update (s : Stream) (front : List UInt8) (parts : List (List UInt8)) :
    parts.foldl update (s.update front) = s.update (front ++ parts.flatten) := by
  induction parts generalizing front with
  | nil => rw [List.foldl_nil, List.flatten_nil, List.append_nil]
  | cons part rest ih =>
    rw [List.foldl_cons, update_update, ih, List.flatten_cons, List.append_assoc]

/-- A message may be cut into pieces of any size. -/
theorem digestInPieces_eq {size : Nat} (h : 0 < size) (message : List UInt8) :
    digestInPieces size message = digest message := by
  rw [digestInPieces, ← Stream.update_nil, Stream.foldl_update, List.nil_append, flatten_pieces h,
    Stream.finish_update]

end Converge.Digest.Md5

namespace Converge.Checksum

open Converge.Digest Converge.Machine Converge.Text

/-! ## §4. Reading a file. -/

/-- A file that is being read: what has not been read yet, and the digest of what has. -/
structure Reading where
  /-- The bytes behind the place where the reading is. -/
  unread : List UInt8
  /-- The digest under way. -/
  stream : Md5.Stream

namespace Reading

/-- Before the first piece. -/
def start (content : List UInt8) : Reading := ⟨content, .empty⟩

/-- Reads the next piece, `size` bytes or what there is, and takes it in.  An empty piece ends the
    reading. -/
def turn? (size : Nat) (g : Reading) : Option Reading :=
  let piece := g.unread.take size
  if piece = [] then none else some ⟨g.unread.drop size, g.stream.update piece⟩

/-- A number of turns, one after the other. -/
inductive Turns (size : Nat) (g : Reading) : Nat → Reading → Prop
  | none : Turns size g 0 g
  | more {n : Nat} {here next : Reading} (before : Turns size g n here)
      (turn : here.turn? size = some next) : Turns size g (n + 1) next

/-- The reading of a content after `n` turns. -/
def after (size : Nat) (content : List UInt8) (n : Nat) : Reading :=
  ⟨content.drop (n * size), Md5.Stream.empty.update (content.take (n * size))⟩

/-- How many pieces that are not empty a file of `length` bytes has. -/
def turnCount (size length : Nat) : Nat := (length + size - 1) / size

variable {size n : Nat} {content : List UInt8} {last : Reading}

theorem lt_turnCount_iff {length : Nat} (h : 0 < size) :
    n < turnCount size length ↔ n * size < length := by
  rw [turnCount, ← Nat.succ_le_iff, Nat.le_div_iff_mul_le h, Nat.succ_mul]
  omega

theorem start_eq_after (size : Nat) (content : List UInt8) : start content = after size content 0 := by
  rw [start, after, Nat.zero_mul, List.drop_zero, List.take_zero, Md5.Stream.update_nil]

/-- **One turn reads the piece that comes next**, if there is one. -/
theorem turn?_after (h : 0 < size) (content : List UInt8) (n : Nat) :
    (after size content n).turn? size =
      if n < turnCount size content.length then some (after size content (n + 1)) else none := by
  have hempty : (content.drop (n * size)).take size = [] ↔ ¬ n < turnCount size content.length := by
    rw [lt_turnCount_iff h, List.take_eq_nil_iff, List.drop_eq_nil_iff]
    omega
  unfold turn? after
  dsimp only
  by_cases hn : n < turnCount size content.length
  · rw [if_neg (fun hnil => hempty.mp hnil hn), if_pos hn, List.drop_drop, Md5.Stream.update_update,
      ← List.take_add, Nat.succ_mul]
  · rw [if_pos (hempty.mpr hn), if_neg hn]

/-- **A file that is being read, after any number of turns**: what is read has been taken in, and there are
    as many turns as pieces that are not empty. -/
theorem turns_iff (h : 0 < size) :
    Turns size (start content) n last ↔
      n ≤ turnCount size content.length ∧ last = after size content n := by
  -- on the number of turns, with the last turn taken apart by what it finds to read
  induction n generalizing last with
  | zero =>
    rw [← start_eq_after]
    constructor
    · intro hturns
      cases hturns
      exact ⟨Nat.zero_le _, rfl⟩
    · intro hlast
      rw [hlast.2]
      exact .none
  | succ n ih =>
    constructor
    · intro hturns
      obtain _ | @⟨_, here, _, hbefore, hturn⟩ := hturns
      rw [(ih.mp hbefore).2, turn?_after h] at hturn
      split at hturn
      · rename_i hn
        cases hturn
        exact ⟨hn, rfl⟩
      · cases hturn
    · intro hlast
      obtain ⟨hn, rfl⟩ := hlast
      refine .more (ih.mpr ⟨Nat.le_of_lt hn, rfl⟩) ?_
      rw [turn?_after h, if_pos (Nat.lt_of_succ_le hn)]

/-- A reading ends when nothing is left, and not before. -/
theorem ends_iff (h : 0 < size) (hturns : Turns size (start content) n last) :
    last.turn? size = none ↔ n = turnCount size content.length := by
  obtain ⟨hn, rfl⟩ := (turns_iff h).mp hturns
  rw [turn?_after h, ite_eq_right_iff]
  simp only [reduceCtorEq, imp_false]
  omega

-- nothing, a full piece, and one byte more
example : turnCount pieceSize 0 = 0 ∧ turnCount pieceSize 65536 = 1 ∧ turnCount pieceSize 65537 = 2 := by
  decide

/-- At its end a reading has taken in the whole content. -/
theorem eq_of_ends (h : 0 < size) (hturns : Turns size (start content) n last)
    (hend : last.turn? size = none) : last = ⟨[], Md5.Stream.empty.update content⟩ := by
  have hn := (ends_iff h hturns).mp hend
  obtain ⟨-, rfl⟩ := (turns_iff h).mp hturns
  have hall : content.length ≤ n * size := by
    rw [← Nat.not_lt, ← lt_turnCount_iff h, hn]
    exact Nat.lt_irrefl _
  rw [after, List.drop_of_length_le hall, List.take_of_length_le hall]

end Reading

/-! ## §5. Comparing two files. -/

theorem hexDigit_injective {a b : Nat} (ha : a < 16) (hb : b < 16) (h : hexDigit a = hexDigit b) :
    a = b := by
  have hall : ∀ a b : Fin 16, hexDigit a = hexDigit b → a = b := by decide
  exact congrArg Fin.val (hall ⟨a, ha⟩ ⟨b, hb⟩ h)

/-- A byte is told by its two digits. -/
theorem byte_of_hexDigits {a b : UInt8} (h : hexDigits 2 a.toNat = hexDigits 2 b.toNat) : a = b := by
  simp only [hexDigits, List.nil_append, List.cons_append, List.cons.injEq, and_true] at h
  have ha := a.toNat_lt
  have hb := b.toNat_lt
  have hhigh := hexDigit_injective (Nat.mod_lt _ (by decide)) (Nat.mod_lt _ (by decide)) h.1
  have hlow := hexDigit_injective (Nat.mod_lt _ (by decide)) (Nat.mod_lt _ (by decide)) h.2
  exact UInt8.toNat_inj.mp (by omega)

/-- Each byte has two digits. -/
theorem length_hexText (bytes : List UInt8) : (hexText bytes).length = 2 * bytes.length := by
  induction bytes with
  | nil => rfl
  | cons b rest ih =>
    rw [hexText, String.length_ofList] at ih ⊢
    rw [List.flatMap_cons, List.length_append, length_hexDigits, ih, List.length_cons]
    omega

/-- **Bytes are told by their hexadecimal text.** -/
theorem hexText_injective : Function.Injective hexText := by
  intro a b h
  have hlength : a.length = b.length := by
    have hdigits := congrArg String.length h
    rw [length_hexText, length_hexText] at hdigits
    omega
  induction a generalizing b with
  | nil => exact (List.length_eq_zero_iff.mp hlength.symm).symm
  | cons x xs ih =>
    obtain ⟨y, ys, rfl⟩ := List.exists_cons_of_length_eq_add_one hlength.symm
    have hdigits := String.ofList_injective h
    rw [List.flatMap_cons, List.flatMap_cons] at hdigits
    obtain ⟨hhead, htail⟩ := List.append_inj hdigits
      ((length_hexDigits 2 x.toNat).trans (length_hexDigits 2 y.toNat).symm)
    rw [byte_of_hexDigits hhead, ih (congrArg String.ofList htail) (Nat.succ.inj hlength)]

/-- A content has the digest of the whole. -/
theorem ofContent_eq (content : List UInt8) : ofContent content = hexText (Md5.digest content) := by
  rw [ofContent, Md5.digestInPieces_eq (by decide)]

example : ofContent [97, 98, 99] = "900150983cd24fb0d6963f7d28e17f72" := by decide +kernel

/-- **Two files that can be read differ exactly if the digests of their contents do.** -/
theorem contentChanged_eq_ok_iff {m : Machine} {destination source : String} {changed : Bool} :
    contentChanged m destination source = .ok changed ↔
      ∃ content text, m.read destination = .ok content ∧ m.read source = .ok text ∧
        changed = (Md5.digest text != Md5.digest content) := by
  have hdigests : ∀ content text, (ofContent text != ofContent content) =
      (Md5.digest text != Md5.digest content) := by
    intro content text
    rw [ofContent_eq, ofContent_eq, Bool.eq_iff_iff, bne_iff_ne, bne_iff_ne, hexText_injective.ne_iff]
  unfold contentChanged ofFile
  cases hsource : m.read source with
  | error e => simp [bind, Except.bind, Except.map]
  | ok text =>
    cases hdestination : m.read destination with
    | error e => simp [bind, Except.bind, Except.map]
    | ok content =>
      simp [bind, Except.bind, Except.map, pure, Except.pure, hdigests, eq_comm]

/-- **A content that is read in pieces has the digest of the whole.**  Every reading of a file comes to its
    end, after as many turns as there are pieces that are not empty.  Then nothing is left unread, and what
    was taken in is the digest of the content, padded and cut into blocks.  So whether two files that can be
    read differ is decided by their contents alone, and with the same content they do not. -/
theorem pieces_digest_whole (content : List UInt8) :
    (∃ last, Reading.Turns pieceSize (.start content) (Reading.turnCount pieceSize content.length) last) ∧
    (∀ turns last, Reading.Turns pieceSize (.start content) turns last →
      turns ≤ Reading.turnCount pieceSize content.length ∧
      (last.turn? pieceSize = none ↔ turns = Reading.turnCount pieceSize content.length) ∧
      (last.turn? pieceSize = none → last.unread = [] ∧ Md5.Digests content last.stream.finish ∧
        ofContent content = hexText last.stream.finish)) ∧
    ∀ (m : Machine) (destination source : String) (text : List UInt8),
      m.read destination = .ok content → m.read source = .ok text →
        contentChanged m destination source = .ok (Md5.digest text != Md5.digest content) ∧
        (text = content → contentChanged m destination source = .ok false) := by
  have hpositive : 0 < pieceSize := by decide
  refine ⟨?ends, ?reading, ?comparing⟩
  case ends => exact ⟨_, (Reading.turns_iff hpositive).mpr ⟨Nat.le_refl _, rfl⟩⟩
  case reading =>
    intro turns last hturns
    refine ⟨((Reading.turns_iff hpositive).mp hturns).1, Reading.ends_iff hpositive hturns, ?_⟩
    intro hend
    rw [Reading.eq_of_ends hpositive hturns hend, ofContent_eq]
    dsimp only
    rw [Md5.Stream.finish_update]
    exact ⟨rfl, Md5.digests_iff.mpr rfl, rfl⟩
  case comparing =>
    intro m destination source text hdestination hsource
    have hchanged := contentChanged_eq_ok_iff.mpr ⟨content, text, hdestination, hsource, rfl⟩
    refine ⟨hchanged, fun hsame => ?_⟩
    rw [hchanged, hsame, bne_self_eq_false]

/-- A content that takes more than one piece. -/
def longContent : List UInt8 := List.replicate 100000 120

/-- A machine with two files of that content. -/
def twins : Machine :=
  { bare with disk := ⟨[(["a"], ⟨.file longContent, 0o644, 0, 0⟩),
      (["b"], ⟨.file longContent, 0o600, 0, 0⟩)]⟩ }

/-- A file in the root of that machine is read under its name. -/
theorem read_twins {path name : String} {mode : Nat} (hcheck : twins.precheck .read path = .ok ())
    (hstart : twins.start path = []) (hsteps : steps path = [name])
    (hturn : turn twins.disk true linkBudget [] name true = .go linkBudget [name] [])
    (hnode : twins.disk.node? [name] = some ⟨.file longContent, mode, 0, 0⟩) :
    twins.read path = .ok longContent := by
  have hroot : twins.disk.node? [] = some .plainDirectory := rfl
  have hthere : twins.arrive path = .ok (.present [name] ⟨.file longContent, mode, 0, 0⟩) := by
    rw [arrive, hstart, hsteps]
    exact (walk_go hroot rfl hturn).trans (walk_arrived hnode)
  rw [read_eq, hcheck, hthere]
  rfl

/-- Two files of a hundred thousand bytes are read in two turns each, and do not differ. -/
theorem twins_unchanged :
    (∃ last, Reading.Turns pieceSize (.start longContent) 2 last ∧ last.turn? pieceSize = none ∧
      last.unread = [] ∧ Md5.Digests longContent last.stream.finish ∧
      ofContent longContent = hexText last.stream.finish) ∧
    twins.read "/a" = .ok longContent ∧ twins.read "/b" = .ok longContent ∧
    contentChanged twins "/a" "/b" = .ok false := by
  obtain ⟨⟨last, hturns⟩, hreading, hcomparing⟩ := pieces_digest_whole longContent
  have htwo : Reading.turnCount pieceSize longContent.length = 2 := by
    rw [longContent, List.length_replicate]
    rfl
  rw [htwo] at hturns
  obtain ⟨-, hover, hend⟩ := hreading 2 last hturns
  have hlast : last.turn? pieceSize = none := hover.mpr htwo.symm
  have ha : twins.read "/a" = .ok longContent :=
    read_twins rfl rfl (show steps "/a" = ["a"] by decide) rfl rfl
  have hb : twins.read "/b" = .ok longContent :=
    read_twins rfl rfl (show steps "/b" = ["b"] by decide) rfl rfl
  exact ⟨⟨last, hturns, hlast, hend hlast⟩, ha, hb, (hcomparing twins "/a" "/b" longContent ha hb).2 rfl⟩

end Converge.Checksum
