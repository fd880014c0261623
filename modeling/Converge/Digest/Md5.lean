/-
  Converge.Digest.Md5
  ───────────────────
  **THE MD5 DIGEST, AT ONCE AND IN CHUNKS.**

  `digest` pads a whole message and folds the compression function over its blocks of 64 bytes.
  `Stream` does the same for a message that arrives in pieces: it keeps the chaining value and the
  bytes of the block that is not full yet.
-/

namespace Converge.Digest.Md5

/-! ## §1. The compression function. -/

/-- The chaining value: four words. -/
structure Chain where
  /-- First word. -/
  a : UInt32
  /-- Second word. -/
  b : UInt32
  /-- Third word. -/
  c : UInt32
  /-- Fourth word. -/
  d : UInt32
deriving DecidableEq, Repr

/-- The value that a message starts from. -/
def Chain.initial : Chain := ⟨0x67452301, 0xefcdab89, 0x98badcfe, 0x10325476⟩

/-- The constant of each step: the first 32 bits after the point of `|sin (i + 1)|`. -/
def sines : Array UInt32 := #[
  0xd76aa478, 0xe8c7b756, 0x242070db, 0xc1bdceee, 0xf57c0faf, 0x4787c62a, 0xa8304613,
  0xfd469501, 0x698098d8, 0x8b44f7af, 0xffff5bb1, 0x895cd7be, 0x6b901122, 0xfd987193,
  0xa679438e, 0x49b40821, 0xf61e2562, 0xc040b340, 0x265e5a51, 0xe9b6c7aa, 0xd62f105d,
  0x02441453, 0xd8a1e681, 0xe7d3fbc8, 0x21e1cde6, 0xc33707d6, 0xf4d50d87, 0x455a14ed,
  0xa9e3e905, 0xfcefa3f8, 0x676f02d9, 0x8d2a4c8a, 0xfffa3942, 0x8771f681, 0x6d9d6122,
  0xfde5380c, 0xa4beea44, 0x4bdecfa9, 0xf6bb4b60, 0xbebfbc70, 0x289b7ec6, 0xeaa127fa,
  0xd4ef3085, 0x04881d05, 0xd9d4d039, 0xe6db99e5, 0x1fa27cf8, 0xc4ac5665, 0xf4292244,
  0x432aff97, 0xab9423a7, 0xfc93a039, 0x655b59c3, 0x8f0ccc92, 0xffeff47d, 0x85845dd1,
  0x6fa87e4f, 0xfe2ce6e0, 0xa3014314, 0x4e0811a1, 0xf7537e82, 0xbd3af235, 0x2ad7d2bb, 0xeb86d391]

/-- How far each step rotates: four amounts per round, used in turn. -/
def rotations : Array UInt32 := #[7, 12, 17, 22, 5, 9, 14, 20, 4, 11, 16, 23, 6, 10, 15, 21]

/-- Rotation to the left. -/
def rotateLeft (x s : UInt32) : UInt32 := (x <<< s) ||| (x >>> (32 - s))

/-- The word with these bytes, least significant first. -/
def wordOf (b0 b1 b2 b3 : UInt8) : UInt32 :=
  b0.toUInt32 ||| (b1.toUInt32 <<< 8) ||| (b2.toUInt32 <<< 16) ||| (b3.toUInt32 <<< 24)

/-- The words of a block; bytes that do not fill a word are left out. -/
def wordsOf : List UInt8 → List UInt32
  | b0 :: b1 :: b2 :: b3 :: rest => wordOf b0 b1 b2 b3 :: wordsOf rest
  | _ => []

/-- One of the 64 steps on the words of a block. -/
def step (words : Array UInt32) (s : Chain) (i : Nat) : Chain :=
  let round := i / 16
  -- the mixing function of the round, and the word that it adds
  let (f, g) :=
    if round = 0 then ((s.b &&& s.c) ||| (~~~s.b &&& s.d), i)
    else if round = 1 then ((s.d &&& s.b) ||| (~~~s.d &&& s.c), (5 * i + 1) % 16)
    else if round = 2 then (s.b ^^^ s.c ^^^ s.d, (3 * i + 5) % 16)
    else (s.c ^^^ (s.b ||| ~~~s.d), 7 * i % 16)
  let sum := s.a + f + sines.getD i 0 + words.getD g 0
  ⟨s.d, s.b + rotateLeft sum (rotations.getD (4 * round + i % 4) 0), s.b, s.c⟩

/-- The chaining value after a block. -/
def compress (s : Chain) (block : List UInt8) : Chain :=
  let words := (wordsOf block).toArray
  let t := (List.range 64).foldl (step words) s
  ⟨s.a + t.a, s.b + t.b, s.c + t.c, s.d + t.d⟩

/-! ## §2. Blocks. -/

/-- The length of a block in bytes. -/
def blockSize : Nat := 64

/-- Compresses the full blocks at the front; gives the chaining value and what is left over. -/
def absorb (s : Chain) (bytes : List UInt8) : Chain × List UInt8 :=
  let block := bytes.take blockSize
  if block.length = blockSize then absorb (compress s block) (bytes.drop blockSize)
  else (s, bytes)
termination_by bytes.length
decreasing_by
  simp only [blockSize, List.length_drop] at *
  have hb : (List.take 64 bytes).length = 64 := by assumption
  rw [List.length_take] at hb
  omega

/-- The `width` low bytes of `n`, least significant first. -/
def littleEndian : Nat → Nat → List UInt8
  | 0, _ => []
  | width + 1, n => UInt8.ofNat n :: littleEndian width (n / 256)

/-- What is put behind a message of `length` bytes: a one bit, zeros up to eight bytes short of a full
    block, and the length in bits. -/
def padding (length : Nat) : List UInt8 :=
  0x80 :: (List.replicate ((119 - length % 64) % 64) 0 ++ littleEndian 8 (length * 8))

/-- The bytes of a word, least significant first. -/
def wordBytes (w : UInt32) : List UInt8 := littleEndian 4 w.toNat

/-- The sixteen bytes of a chaining value. -/
def Chain.bytes (s : Chain) : List UInt8 :=
  wordBytes s.a ++ wordBytes s.b ++ wordBytes s.c ++ wordBytes s.d

/-- The digest of a whole message. -/
def digest (message : List UInt8) : List UInt8 :=
  (absorb Chain.initial (message ++ padding message.length)).1.bytes

/-! ## §3. Messages that arrive in pieces. -/

/-- A digest under way. -/
structure Stream where
  /-- The chaining value after the full blocks so far. -/
  chain : Chain
  /-- The bytes of the block that is not full yet. -/
  held : List UInt8
  /-- How many bytes have arrived. -/
  length : Nat

/-- Before the first byte. -/
def Stream.empty : Stream := ⟨Chain.initial, [], 0⟩

/-- Takes in a piece. -/
def Stream.update (s : Stream) (piece : List UInt8) : Stream :=
  let (chain, held) := absorb s.chain (s.held ++ piece)
  ⟨chain, held, s.length + piece.length⟩

/-- The digest of all that has arrived. -/
def Stream.finish (s : Stream) : List UInt8 :=
  (absorb s.chain (s.held ++ padding s.length)).1.bytes

/-- Cuts a message into pieces of `size` bytes, the last one shorter; a size of zero gives none. -/
def pieces (size : Nat) (message : List UInt8) : List (List UInt8) :=
  if size = 0 ∨ message.isEmpty then []
  else message.take size :: pieces size (message.drop size)
termination_by message.length
decreasing_by
  rename_i h
  simp only [not_or, Bool.not_eq_true] at h
  obtain ⟨hs, hm⟩ := h
  cases message with
  | nil => simp at hm
  | cons b bs => simp only [List.length_drop, List.length_cons]; omega

/-- The digest of a message that is read in pieces of `size` bytes. -/
def digestInPieces (size : Nat) (message : List UInt8) : List UInt8 :=
  ((pieces size message).foldl Stream.update Stream.empty).finish

/-- The pieces make up the message. -/
theorem flatten_pieces {size : Nat} (h : 0 < size) (message : List UInt8) :
    (pieces size message).flatten = message := by
  fun_induction pieces size message with
  | case1 m hm =>
    rcases hm with hm | hm
    · omega
    · simpa using (List.isEmpty_iff.1 hm).symm
  | case2 m hm ih => simp [ih]

end Converge.Digest.Md5
