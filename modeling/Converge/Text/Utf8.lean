/-
  Converge.Text.Utf8
  ──────────────────
  **DECODING BYTES, WITH THE REASON AND PLACE OF A REFUSAL.**

  A sequence is refused at its first byte.  The reason is a lead byte that starts nothing, a
  continuation byte outside the range that the bytes before it leave open (which is how overlong
  forms, surrogates and code points above U+10FFFF are refused), or the end of the data.
-/

namespace Converge.Text

/-- Why a byte sequence is not text. -/
inductive Utf8Reason where
  /-- The byte can start no sequence. -/
  | invalidStart
  /-- The sequence goes on with a byte that cannot follow. -/
  | invalidContinuation
  /-- The data ends within a sequence. -/
  | unexpectedEnd
deriving DecidableEq, Repr

/-- A refusal: the bytes at fault (first and last position) and the reason. -/
structure Utf8Refusal where
  /-- The first byte of the sequence. -/
  byte : UInt8
  /-- Its position. -/
  start : Nat
  /-- How many bytes are at fault. -/
  length : Nat
  /-- What is wrong with them. -/
  reason : Utf8Reason
deriving DecidableEq, Repr

namespace Utf8

/-- The shape that a lead byte announces: how many continuation bytes follow, the range of the
    first of them, and the bits that the lead byte itself carries. -/
structure Lead where
  /-- How many bytes follow. -/
  more : Nat
  /-- The least value of the first that follows. -/
  low : UInt8
  /-- The greatest value of the first that follows. -/
  high : UInt8
  /-- The high bits of the code point. -/
  bits : Nat

/-- The shape announced by a lead byte above the ASCII range; `none` if it can start nothing. -/
def lead? (b : UInt8) : Option Lead :=
  let n := b.toNat
  if 0xc2 ≤ n ∧ n ≤ 0xdf then some ⟨1, 0x80, 0xbf, n - 0xc0⟩
  else if n = 0xe0 then some ⟨2, 0xa0, 0xbf, 0⟩
  else if n = 0xed then some ⟨2, 0x80, 0x9f, n - 0xe0⟩
  else if 0xe1 ≤ n ∧ n ≤ 0xef then some ⟨2, 0x80, 0xbf, n - 0xe0⟩
  else if n = 0xf0 then some ⟨3, 0x90, 0xbf, 0⟩
  else if 0xf1 ≤ n ∧ n ≤ 0xf3 then some ⟨3, 0x80, 0xbf, n - 0xf0⟩
  else if n = 0xf4 then some ⟨3, 0x80, 0x8f, 4⟩
  else none

/-- Where the decoder stands inside a sequence: its lead, what has been read of it and what the
    next byte may be. -/
structure Pending where
  /-- The lead byte. -/
  first : UInt8
  /-- Its position. -/
  start : Nat
  /-- Continuation bytes still to come, less one. -/
  left : Nat
  /-- The least value of the next. -/
  low : UInt8
  /-- The greatest value of the next. -/
  high : UInt8
  /-- The bits read so far. -/
  bits : Nat

/-- Decodes from position `pos`, inside the sequence `pending` if there is one. -/
def decodeFrom (pos : Nat) (pending : Option Pending) : List UInt8 → Except Utf8Refusal (List Char)
  | [] =>
    match pending with
    | none => .ok []
    | some p => .error ⟨p.first, p.start, pos - p.start, .unexpectedEnd⟩
  | b :: rest =>
    match pending with
    | some p =>
      if p.low ≤ b ∧ b ≤ p.high then
        let bits := p.bits * 64 + (b.toNat - 0x80)
        match p.left with
        | 0 => (decodeFrom (pos + 1) none rest).map (Char.ofNat bits :: ·)
        | left + 1 =>
          decodeFrom (pos + 1)
            (some { p with left := left, low := 0x80, high := 0xbf, bits := bits }) rest
      else .error ⟨p.first, p.start, pos - p.start, .invalidContinuation⟩
    | none =>
      -- outside a sequence: a character of its own, or the lead of a sequence
      if b < 0x80 then (decodeFrom (pos + 1) none rest).map (Char.ofNat b.toNat :: ·)
      else
        match lead? b with
        | some l =>
          decodeFrom (pos + 1) (some ⟨b, pos, l.more - 1, l.low, l.high, l.bits⟩) rest
        | none => .error ⟨b, pos, 1, .invalidStart⟩

/-- The text that the bytes encode, or where and why they encode none. -/
def decode (bytes : List UInt8) : Except Utf8Refusal (List Char) := decodeFrom 0 none bytes

end Utf8

/-- The bytes of a text in UTF-8. -/
def utf8Bytes (s : String) : List UInt8 := s.toUTF8.toList

end Converge.Text
