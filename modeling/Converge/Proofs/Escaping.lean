/-
  Converge.Proofs.Escaping
  ────────────────────────
  **WHAT ESCAPING AND RENDERING DO WITH A TEXT.**

  A text starts in one of four ways: with backslashes and nothing behind them, with a character that
  opens nothing, with a bracket that opens no tag, or with a tag.  What escaping makes of a text, and what
  rendering prints of one, is said for each, and everything else about both is shown by going through the
  text in this way.

  Main results:
    * `text_induction` — the four ways in which a text starts;
    * `escapeChars_tag` and its siblings — what escaping does with each;
    * `renders_odd_iff` and its siblings — what rendering does with each;
    * `sublist_of_renders` — rendering takes characters away and puts none in.
-/
import Mathlib.Tactic.Tauto
import Converge.Markup

namespace Converge.Markup

/-! ## §1. Tags. -/

/-- Whether the character is a bracket. -/
def isBracket (c : Char) : Bool := c == '[' || c == ']'

/-- The inside of a tag. -/
structure IsTag (body : List Char) : Prop where
  starts : ∃ c rest, body = c :: rest ∧ startsTag c = true
  bare : ∀ c ∈ body, isBracket c = false

/-- Whether the text starts as the inside of a tag does. -/
def StartsTag (cs : List Char) : Prop := ∃ c rest, cs = c :: rest ∧ startsTag c = true

theorem isBracket_of_startsTag {c : Char} (h : startsTag c = true) : isBracket c = false := by
  unfold isBracket
  rw [Bool.or_eq_false_iff, beq_eq_false_iff_ne, beq_eq_false_iff_ne]
  constructor <;> rintro rfl <;> exact absurd h (by decide)

theorem upToClosing_append {body : List Char} (hbare : ∀ c ∈ body, isBracket c = false)
    (rest : List Char) : upToClosing (body ++ ']' :: rest) = some (body, rest) := by
  induction body with
  | nil => simp [upToClosing]
  | cons c body ih =>
    rw [List.forall_mem_cons] at hbare
    have hc := hbare.1
    simp only [isBracket, Bool.or_eq_false_iff, beq_eq_false_iff_ne] at hc
    rw [List.cons_append, upToClosing, if_neg hc.2, if_neg hc.1, ih hbare.2]
    rfl

theorem of_upToClosing {cs body rest : List Char} (h : upToClosing cs = some (body, rest)) :
    cs = body ++ ']' :: rest ∧ ∀ c ∈ body, isBracket c = false := by
  induction cs generalizing body with
  | nil => cases h
  | cons c cs ih =>
    rw [upToClosing] at h
    by_cases hclose : c = ']'
    · rw [if_pos hclose] at h
      cases h
      exact ⟨by rw [hclose]; rfl, by simp⟩
    · rw [if_neg hclose] at h
      by_cases hopen : c = '['
      · rw [if_pos hopen] at h
        cases h
      · rw [if_neg hopen, Option.map_eq_some_iff] at h
        obtain ⟨⟨body', rest'⟩, hrest, heq⟩ := h
        cases heq
        obtain ⟨rfl, hbare⟩ := ih hrest
        exact ⟨rfl, List.forall_mem_cons.mpr ⟨by simp [isBracket, hopen, hclose], hbare⟩⟩

/-- What is read as a tag is the inside of one and what comes after it. -/
theorem tagBody?_eq_some {cs body rest : List Char} :
    tagBody? cs = some (body, rest) ↔ cs = body ++ ']' :: rest ∧ IsTag body := by
  constructor
  · intro h
    cases cs with
    | nil => cases h
    | cons c cs =>
      rw [tagBody?] at h
      by_cases hstarts : startsTag c = true
      · rw [if_pos hstarts, Option.map_eq_some_iff] at h
        obtain ⟨⟨body', rest'⟩, hrest, heq⟩ := h
        cases heq
        obtain ⟨rfl, hbare⟩ := of_upToClosing hrest
        exact ⟨rfl, ⟨c, body', rfl, hstarts⟩,
          List.forall_mem_cons.mpr ⟨isBracket_of_startsTag hstarts, hbare⟩⟩
      · rw [if_neg hstarts] at h
        cases h
  · rintro ⟨rfl, ⟨c, t, rfl, hstarts⟩, hbare⟩
    rw [List.cons_append, tagBody?, if_pos hstarts,
      upToClosing_append (List.forall_mem_cons.mp hbare).2]
    rfl

/-- A bracket in front of the text opens a tag. -/
def OpensTag (cs : List Char) : Prop := ∃ body rest, cs = body ++ ']' :: rest ∧ IsTag body

theorem tagBody?_eq_none_iff {cs : List Char} : tagBody? cs = none ↔ ¬ OpensTag cs := by
  constructor
  · rintro hnone ⟨body, rest, htag⟩
    rw [tagBody?_eq_some.mpr htag] at hnone
    cases hnone
  · intro hnot
    cases htag : tagBody? cs with
    | none => rfl
    | some p => exact absurd ⟨p.1, p.2, tagBody?_eq_some.mp htag⟩ hnot

/-- A bracket opens a tag if a tag can start behind it and the next bracket closes. -/
theorem opensTag_iff {cs : List Char} :
    OpensTag cs ↔ StartsTag cs ∧ cs.find? isBracket = some ']' := by
  constructor
  · rintro ⟨body, rest, rfl, ⟨c, t, rfl, hc⟩, hbare⟩
    refine ⟨⟨c, t ++ ']' :: rest, rfl, hc⟩, ?_⟩
    rw [List.find?_append, List.find?_eq_none.mpr fun d hd => by simp [hbare d hd]]
    rfl
  · rintro ⟨⟨c, t, rfl, hc⟩, hfind⟩
    obtain ⟨-, body, rest, heq, hbare⟩ := List.find?_eq_some_iff_append.mp hfind
    have hbare : ∀ d ∈ body, isBracket d = false := fun d hd => by simpa using hbare d hd
    refine ⟨body, rest, heq, ?_, hbare⟩
    cases body with
    | nil =>
      cases heq
      exact absurd hc (by decide)
    | cons d body =>
      cases heq
      exact ⟨_, _, rfl, hc⟩

/-! ## §2. How a text starts. -/

@[simp] theorem slashes_zero : slashes 0 = [] := rfl

theorem slashes_succ (n : Nat) : slashes (n + 1) = '\\' :: slashes n := rfl

theorem mem_slashes {c : Char} {n : Nat} (h : c ∈ slashes n) : c = '\\' := List.eq_of_mem_replicate h

theorem length_slashes (n : Nat) : (slashes n).length = n := List.length_replicate

@[simp] theorem count_slashes (n : Nat) : (slashes n).count '[' = 0 :=
  List.count_eq_zero.mpr fun h => absurd (mem_slashes h) (by decide)

/-- A text is backslashes and something else behind them, or nothing. -/
theorem exists_slashes (cs : List Char) :
    ∃ n rest, cs = slashes n ++ rest ∧ ∀ c t, rest = c :: t → c ≠ '\\' := by
  induction cs with
  | nil => exact ⟨0, [], rfl, by simp⟩
  | cons c cs ih =>
    by_cases hc : c = '\\'
    · obtain ⟨n, rest, rfl, hrest⟩ := ih
      exact ⟨n + 1, rest, by rw [hc, slashes_succ]; rfl, hrest⟩
    · refine ⟨0, c :: cs, rfl, ?_⟩
      intro d t heq
      cases heq
      exact hc

/-- **The four ways in which a text starts**: with backslashes and nothing behind them, with a character
    that opens nothing, with a bracket that opens no tag, or with a tag. -/
theorem text_induction {motive : List Char → Prop}
    (ending : ∀ n, motive (slashes n))
    (plain : ∀ n c cs, c ≠ '\\' → c ≠ '[' → motive cs → motive (slashes n ++ c :: cs))
    (opened : ∀ n cs, tagBody? cs = none → motive cs → motive (slashes n ++ '[' :: cs))
    (tag : ∀ n body cs, IsTag body → motive cs → motive (slashes n ++ '[' :: (body ++ ']' :: cs)))
    (cs : List Char) : motive cs := by
  induction h : cs.length using Nat.strongRecOn generalizing cs with
  | ind k ih =>
    obtain ⟨n, rest, rfl, hrest⟩ := exists_slashes cs
    subst h
    cases rest with
    | nil =>
      rw [List.append_nil]
      exact ending n
    | cons c cs =>
      by_cases hopen : c = '['
      · subst hopen
        cases htag : tagBody? cs with
        | none => exact opened n cs htag (ih _ (by simp; omega) cs rfl)
        | some p =>
          obtain ⟨body, rest⟩ := p
          obtain ⟨rfl, hbody⟩ := tagBody?_eq_some.mp htag
          exact tag n body rest hbody (ih _ (by simp; omega) rest rfl)
      · exact plain n c cs (hrest c cs rfl) hopen (ih _ (by simp; omega) cs rfl)

section Pieces

variable {n : Nat} {c : Char} {cs body : List Char}

theorem piecesFrom_slashes (k n : Nat) (cs : List Char) :
    piecesFrom k (slashes n ++ cs) = piecesFrom (k + n) cs := by
  induction n generalizing k with
  | zero => rfl
  | succ n ih =>
    rw [slashes_succ, List.cons_append, piecesFrom, if_pos rfl, ih]
    congr 1
    omega

theorem pieces_ending (n : Nat) : pieces (slashes n) = if n = 0 then [] else [.plain n none] := by
  unfold pieces
  rw [← List.append_nil (slashes n), piecesFrom_slashes, piecesFrom, Nat.zero_add]

theorem pieces_plain (n : Nat) (hslash : c ≠ '\\') (hopen : c ≠ '[') :
    pieces (slashes n ++ c :: cs) = .plain n (some c) :: pieces cs := by
  unfold pieces
  rw [piecesFrom_slashes, piecesFrom, if_neg hslash, if_neg hopen, Nat.zero_add]

theorem pieces_opened (n : Nat) (htag : tagBody? cs = none) :
    pieces (slashes n ++ '[' :: cs) = .plain n (some '[') :: pieces cs := by
  unfold pieces
  rw [piecesFrom_slashes, piecesFrom, if_neg (by decide), if_pos rfl, Nat.zero_add]
  split
  · next h => rw [htag] at h; cases h
  · rfl

theorem pieces_tag (n : Nat) (hbody : IsTag body) :
    pieces (slashes n ++ '[' :: (body ++ ']' :: cs)) = .tag n body :: pieces cs := by
  unfold pieces
  rw [piecesFrom_slashes, piecesFrom, if_neg (by decide), if_pos rfl, Nat.zero_add]
  have htag : tagBody? (body ++ ']' :: cs) = some (body, cs) := tagBody?_eq_some.mpr ⟨rfl, hbody⟩
  split
  · next h => rw [htag] at h; cases h; rfl
  · next h => rw [htag] at h; cases h

end Pieces

/-! ## §3. Escaping. -/

/-- An escaped text, character by character. -/
def escapeChars (cs : List Char) : List Char := guardEnd ((pieces cs).flatMap Piece.escaped)

/-- What is before a character that is no backslash has no part in how the end is guarded. -/
theorem guardEnd_append {c : Char} (h : c ≠ '\\') (front cs : List Char) :
    guardEnd (front ++ c :: cs) = front ++ c :: guardEnd cs := by
  have hreverse : (front ++ c :: cs).reverse = cs.reverse ++ c :: front.reverse := by simp
  unfold guardEnd
  rw [hreverse]
  match cs.reverse with
  | [] => simp [h]
  | [d] => by_cases hd : d = '\\' <;> simp [hd, h]
  | d :: e :: t => by_cases hd : d = '\\' <;> by_cases he : e = '\\' <;> simp [hd, he]

section Escape

variable {n : Nat} {c : Char} {cs body : List Char}

theorem escapeChars_ending (n : Nat) : escapeChars (slashes n) = slashes (if n = 1 then 2 else n) := by
  unfold escapeChars
  rw [pieces_ending]
  match n with
  | 0 => rfl
  | 1 => rfl
  | n + 2 =>
    have hreverse : (slashes (n + 2)).reverse = '\\' :: '\\' :: slashes n := by
      unfold slashes
      rw [List.reverse_replicate]
      rfl
    simp [Piece.escaped, guardEnd, hreverse]

theorem escapeChars_plain (n : Nat) (hslash : c ≠ '\\') (hopen : c ≠ '[') :
    escapeChars (slashes n ++ c :: cs) = slashes n ++ c :: escapeChars cs := by
  unfold escapeChars
  rw [pieces_plain n hslash hopen, List.flatMap_cons, ← guardEnd_append hslash]
  simp [Piece.escaped]

theorem escapeChars_opened (n : Nat) (htag : tagBody? cs = none) :
    escapeChars (slashes n ++ '[' :: cs) = slashes n ++ '[' :: escapeChars cs := by
  unfold escapeChars
  rw [pieces_opened n htag, List.flatMap_cons, ← guardEnd_append (by decide)]
  simp [Piece.escaped]

/-- In front of a tag the backslashes are doubled and one more makes the tag text. -/
theorem escapeChars_tag (n : Nat) (hbody : IsTag body) :
    escapeChars (slashes n ++ '[' :: (body ++ ']' :: cs)) =
      slashes (2 * n + 1) ++ '[' :: (body ++ ']' :: escapeChars cs) := by
  have hassoc : ∀ rest, slashes (2 * n + 1) ++ '[' :: (body ++ ']' :: rest) =
      (slashes (2 * n + 1) ++ '[' :: body) ++ ']' :: rest := by simp
  unfold escapeChars
  rw [pieces_tag n hbody, List.flatMap_cons, hassoc, ← guardEnd_append (by decide)]
  simp [Piece.escaped, bracketed]

end Escape

theorem find?_slashes_append (n : Nat) (cs : List Char) :
    (slashes n ++ cs).find? isBracket = cs.find? isBracket := by
  rw [List.find?_append, List.find?_eq_none.mpr, Option.none_or]
  intro c hc
  rw [mem_slashes hc]
  decide

/-- Escaping puts in no bracket: the first one is the same. -/
theorem find?_escapeChars (cs : List Char) :
    (escapeChars cs).find? isBracket = cs.find? isBracket := by
  induction cs using text_induction with
  | ending n =>
    rw [escapeChars_ending]
    simpa using (find?_slashes_append _ []).trans (find?_slashes_append _ []).symm
  | plain n c cs hslash hopen ih =>
    rw [escapeChars_plain n hslash hopen, find?_slashes_append, find?_slashes_append, List.find?_cons,
      List.find?_cons, ih]
  | opened n cs htag ih =>
    rw [escapeChars_opened n htag, find?_slashes_append, find?_slashes_append]
    rfl
  | tag n body cs hbody ih =>
    rw [escapeChars_tag n hbody, find?_slashes_append, find?_slashes_append]
    rfl

/-- Escaping puts in no opening bracket: there are as many as before. -/
theorem count_escapeChars (cs : List Char) : (escapeChars cs).count '[' = cs.count '[' := by
  induction cs using text_induction with
  | ending n => rw [escapeChars_ending, count_slashes, count_slashes]
  | plain n c cs hslash hopen ih => simp [escapeChars_plain n hslash hopen, List.count_cons, ih]
  | opened n cs htag ih => simp [escapeChars_opened n htag, ih]
  | tag n body cs hbody ih => simp [escapeChars_tag n hbody, ih]

/-- Escaping puts in backslashes alone. -/
theorem mem_escapeChars {d : Char} {cs : List Char} (h : d ∈ escapeChars cs) : d = '\\' ∨ d ∈ cs := by
  induction cs using text_induction with
  | ending n =>
    rw [escapeChars_ending] at h
    exact .inl (mem_slashes h)
  | plain n c cs hslash hopen ih =>
    rw [escapeChars_plain n hslash hopen] at h
    simp only [List.mem_append, List.mem_cons] at h ⊢
    tauto
  | opened n cs htag ih =>
    rw [escapeChars_opened n htag] at h
    simp only [List.mem_append, List.mem_cons] at h ⊢
    tauto
  | tag n body cs hbody ih =>
    rw [escapeChars_tag n hbody] at h
    simp only [List.mem_append, List.mem_cons] at h ⊢
    rcases h with h | h
    · exact .inl (mem_slashes h)
    · tauto

/-! ## §4. Rendering. -/

section Pieces

variable {position n : Nat} {styles : List String} {rest : List Piece} {c : Char} {body : List Char}

theorem renderPieces_ending (position n : Nat) (styles : List String) :
    renderPieces position styles (pieces (slashes n)) = .ok (slashes n) := by
  rw [pieces_ending]
  by_cases hn : n = 0
  · simp [hn, renderPieces]
  · simp [hn, renderPieces, Except.map]

theorem renderPieces_opened (position n : Nat) (styles : List String) (rest : List Piece) :
    renderPieces position styles (.plain n (some '[') :: rest) =
      (renderPieces (position + (n + 1)) styles rest).map (slashes (n - 1) ++ '[' :: ·) := by
  rw [renderPieces]
  rfl

theorem renderPieces_plain (position n : Nat) (styles : List String) (rest : List Piece)
    (hopen : c ≠ '[') :
    renderPieces position styles (.plain n (some c) :: rest) =
      (renderPieces (position + (n + 1)) styles rest).map (slashes n ++ c :: ·) := by
  rw [renderPieces]
  · simp [Piece.width]
  · simpa using hopen

/-- After an odd number of backslashes a tag is text. -/
theorem renderPieces_odd (position : Nat) (styles : List String) (rest : List Piece)
    (hodd : n % 2 = 1) :
    renderPieces position styles (.tag n body :: rest) =
      (renderPieces (position + (n + body.length + 2)) styles rest).map
        (slashes (n / 2) ++ bracketed body ++ ·) := by
  cases body with
  | nil => exact if_pos hodd
  | cons c body => exact if_pos hodd

/-- After an even number of backslashes a tag is taken away, or closes nothing. -/
theorem renderPieces_even (styles : List String) (body : List Char) (heven : n % 2 ≠ 1) :
    (∃ styles', ∀ position rest, renderPieces position styles (.tag n body :: rest) =
      (renderPieces (position + (n + body.length + 2)) styles' rest).map (slashes (n / 2) ++ ·)) ∨
    ∀ position rest, ∃ fault, renderPieces position styles (.tag n body :: rest) = .error fault := by
  simp only [renderPieces, if_neg heven]
  split
  · split
    · cases styles with
      | nil => exact .inr fun position rest => ⟨_, rfl⟩
      | cons style styles => exact .inl ⟨styles, fun position rest => rfl⟩
    · split
      · exact .inr fun position rest => ⟨_, rfl⟩
      · exact .inl ⟨_, fun position rest => rfl⟩
  · exact .inl ⟨_, fun position rest => rfl⟩

end Pieces

theorem map_eq_ok {ε α β : Type} {f : α → β} {x : Except ε α} {y : β} :
    x.map f = .ok y ↔ ∃ a, x = .ok a ∧ y = f a := by
  cases x with
  | error e => simp [Except.map]
  | ok a => simp [Except.map, eq_comm]

instance decidableEqOk {ε α : Type} [DecidableEq α] (x : Except ε α) (a : α) : Decidable (x = .ok a) :=
  match x with
  | .ok b => decidable_of_iff (b = a) (iff_of_eq (Except.ok.injEq b a)).symm
  | .error _ => isFalse nofun

/-- With styles open the text is printed, and this is how. -/
def Renders (styles : List String) (cs out : List Char) : Prop :=
  ∀ position, renderPieces position styles (pieces cs) = .ok out

variable {styles styles' : List String} {cs cs' body out : List Char} {n : Nat} {c : Char}

/-- Where the text stands matters to faults alone. -/
theorem renders_of_ok {position : Nat} (h : renderPieces position styles (pieces cs) = .ok out) :
    Renders styles cs out := by
  intro position'
  induction cs using text_induction generalizing styles out position position' with
  | ending n => rwa [renderPieces_ending] at h ⊢
  | plain n c cs hslash hopen ih =>
    rw [pieces_plain n hslash hopen, renderPieces_plain _ _ _ _ hopen] at h ⊢
    obtain ⟨out', hrest, rfl⟩ := map_eq_ok.mp h
    rw [ih hrest]
    rfl
  | opened n cs htag ih =>
    rw [pieces_opened n htag, renderPieces_opened] at h ⊢
    obtain ⟨out', hrest, rfl⟩ := map_eq_ok.mp h
    rw [ih hrest]
    rfl
  | tag n body cs hbody ih =>
    rw [pieces_tag n hbody] at h ⊢
    by_cases hodd : n % 2 = 1
    · rw [renderPieces_odd _ _ _ hodd] at h ⊢
      obtain ⟨out', hrest, rfl⟩ := map_eq_ok.mp h
      rw [ih hrest]
      rfl
    · rcases renderPieces_even styles body hodd with ⟨styles', hstep⟩ | hfault
      · rw [hstep] at h ⊢
        obtain ⟨out', hrest, rfl⟩ := map_eq_ok.mp h
        rw [ih hrest]
        rfl
      · obtain ⟨fault, hfault⟩ := hfault position (pieces cs)
        rw [hfault] at h
        cases h

/-- One part of a text, and the rest of it. -/
theorem renders_step_iff {width : Nat} {f : List Char → List Char}
    (hstep : ∀ position, renderPieces position styles (pieces cs) =
      (renderPieces (position + width) styles' (pieces cs')).map f) :
    Renders styles cs out ↔ ∃ out', out = f out' ∧ Renders styles' cs' out' := by
  constructor
  · intro h
    have hstart := h 0
    rw [hstep] at hstart
    obtain ⟨out', hrest, rfl⟩ := map_eq_ok.mp hstart
    exact ⟨out', rfl, renders_of_ok hrest⟩
  · rintro ⟨out', rfl, hrest⟩ position
    rw [hstep, hrest]
    rfl

theorem renders_ending_iff : Renders styles (slashes n) out ↔ out = slashes n := by
  constructor
  · intro h
    have hstart := h 0
    rw [renderPieces_ending] at hstart
    exact (Except.ok.inj hstart).symm
  · rintro rfl position
    exact renderPieces_ending position n styles

theorem renders_nil : Renders styles [] [] := (renders_ending_iff (n := 0)).mpr rfl

theorem renders_plain_iff (hslash : c ≠ '\\') (hopen : c ≠ '[') :
    Renders styles (slashes n ++ c :: cs) out ↔
      ∃ out', out = slashes n ++ c :: out' ∧ Renders styles cs out' :=
  renders_step_iff fun position => by
    rw [pieces_plain n hslash hopen, renderPieces_plain _ _ _ _ hopen]

theorem renders_cons_iff (hslash : c ≠ '\\') (hopen : c ≠ '[') :
    Renders styles (c :: cs) (c :: out) ↔ Renders styles cs out := by
  refine (renders_plain_iff (n := 0) hslash hopen).trans ⟨?_, fun hrest => ⟨_, rfl, hrest⟩⟩
  rintro ⟨out', heq, hrest⟩
  cases heq
  exact hrest

theorem renders_opened_iff (htag : tagBody? cs = none) :
    Renders styles (slashes n ++ '[' :: cs) out ↔
      ∃ out', out = slashes (n - 1) ++ '[' :: out' ∧ Renders styles cs out' :=
  renders_step_iff fun position => by rw [pieces_opened n htag, renderPieces_opened]

theorem renders_odd_iff (hbody : IsTag body) (hodd : n % 2 = 1) :
    Renders styles (slashes n ++ '[' :: (body ++ ']' :: cs)) out ↔
      ∃ out', out = slashes (n / 2) ++ bracketed body ++ out' ∧ Renders styles cs out' :=
  renders_step_iff fun position => by rw [pieces_tag n hbody, renderPieces_odd _ _ _ hodd]

theorem renders_even (hbody : IsTag body) (heven : n % 2 ≠ 1)
    (h : Renders styles (slashes n ++ '[' :: (body ++ ']' :: cs)) out) :
    ∃ styles' out', out = slashes (n / 2) ++ out' ∧ Renders styles' cs out' := by
  rcases renderPieces_even styles body heven with ⟨styles', hstep⟩ | hfault
  · exact ⟨styles', (renders_step_iff fun position => by rw [pieces_tag n hbody, hstep]).mp h⟩
  · obtain ⟨fault, hfault⟩ := hfault 0 (pieces cs)
    have hstart := h 0
    rw [pieces_tag n hbody, hfault] at hstart
    cases hstart

theorem slashes_sublist {k : Nat} (h : k ≤ n) : (slashes k).Sublist (slashes n) :=
  (List.replicate_sublist_replicate '\\').mpr h

/-- Rendering takes characters away and puts none in. -/
theorem sublist_of_renders (h : Renders styles cs out) : out.Sublist cs := by
  induction cs using text_induction generalizing styles out with
  | ending n => exact (renders_ending_iff.mp h) ▸ List.Sublist.refl _
  | plain n c cs hslash hopen ih =>
    obtain ⟨out', rfl, hrest⟩ := (renders_plain_iff hslash hopen).mp h
    exact (List.Sublist.refl _).append ((ih hrest).cons_cons c)
  | opened n cs htag ih =>
    obtain ⟨out', rfl, hrest⟩ := (renders_opened_iff htag).mp h
    exact (slashes_sublist (by omega)).append ((ih hrest).cons_cons '[')
  | tag n body cs hbody ih =>
    by_cases hodd : n % 2 = 1
    · obtain ⟨out', rfl, hrest⟩ := (renders_odd_iff hbody hodd).mp h
      rw [show bracketed body = '[' :: (body ++ [']']) from rfl, List.append_assoc, List.cons_append,
        ← List.append_cons]
      refine (slashes_sublist (by omega)).append (List.Sublist.cons_cons '[' ?_)
      exact (List.Sublist.refl body).append ((ih hrest).cons_cons ']')
    · obtain ⟨styles', out', rfl, hrest⟩ := renders_even hbody hodd h
      refine (slashes_sublist (by omega)).append (List.Sublist.cons '[' ?_)
      exact ((ih hrest).cons ']').trans (List.sublist_append_right body _)

end Converge.Markup
