/-
  Converge.Number.Numeral
  ───────────────────────
  **INTEGERS AS TEXT.**

  Reading takes the common spelling of integers in a base: blanks around, a sign, the base's own
  prefix (`0b`, `0o`, `0x`), decimal digits of any script, and single underscores between digits
  or right after the prefix.  Writing is plain digits, in octal padded with zeros to a width.
-/
import Converge.Text.Blank
import Converge.Text.DecimalDigit

namespace Converge.Number

open Converge.Text

/-! ## §1. Reading. -/

/-- The blanks that may stand around a numeral: all but the four information separators. -/
def isNumeralBlank (c : Char) : Bool :=
  isBlank c && !(decide (0x1c ≤ c.toNat) && decide (c.toNat ≤ 0x1f))

/-- The value of a digit in the given base: a decimal digit of any script or an ASCII letter. -/
def digitIn? (base : Nat) (c : Char) : Option Nat :=
  let value := match digitValue? c with
    | some d => some d
    | none =>
      if 'a' ≤ c ∧ c ≤ 'z' then some (c.toNat - 'a'.toNat + 10)
      else if 'A' ≤ c ∧ c ≤ 'Z' then some (c.toNat - 'A'.toNat + 10)
      else none
  value.filter fun d => decide (d < base)

/-- Goes on reading digits after those worth `acc`; one underscore may stand before each. -/
def moreDigits? (base acc : Nat) : List Char → Option Nat
  | [] => some acc
  | '_' :: c :: rest => (digitIn? base c).bind fun d => moreDigits? base (acc * base + d) rest
  | c :: rest => (digitIn? base c).bind fun d => moreDigits? base (acc * base + d) rest

/-- One or more digits, with single underscores between them. -/
def digits? (base : Nat) : List Char → Option Nat
  | [] => none
  | c :: rest => (digitIn? base c).bind fun d => moreDigits? base d rest

/-- The letter that follows a zero in the prefix of a base, in lower case. -/
def prefixLetter? : Nat → Option Char
  | 2 => some 'b'
  | 8 => some 'o'
  | 16 => some 'x'
  | _ => none

/-- Drops the prefix of the base, and one underscore right after it. -/
def dropPrefix (base : Nat) : List Char → List Char
  | z :: l :: rest =>
    if digitValue? z = some 0 ∧ prefixLetter? base = some l.toLower then
      match rest with
      | '_' :: rest => rest
      | rest => rest
    else z :: l :: rest
  | cs => cs

/-- The integer that a text spells in the given base. -/
def integer? (base : Nat) (s : String) : Option Int :=
  match trimBy isNumeralBlank s.toList with
  | '-' :: rest => (digits? base (dropPrefix base rest)).map fun n => -(n : Int)
  | '+' :: rest => (digits? base (dropPrefix base rest)).map Int.ofNat
  | cs => (digits? base (dropPrefix base cs)).map Int.ofNat

/-! ## §2. Writing. -/

/-- Pads with zeros on the left to at least `width` characters. -/
def zeroPad (width : Nat) (cs : List Char) : List Char :=
  List.replicate (width - cs.length) '0' ++ cs

/-- The decimal digits of `n`, padded with zeros to at least `width`. -/
def decimalText (width n : Nat) : String := String.ofList (zeroPad width (Nat.toDigits 10 n))

/-- The octal digits of `n`. -/
def octalDigits (n : Nat) : List Char := Nat.toDigits 8 n

/-- An integer in octal, padded with zeros to at least `width` characters, its sign included. -/
def octalText (width : Nat) : Int → String
  | .ofNat n => String.ofList (zeroPad width (octalDigits n))
  | .negSucc n => String.ofList ('-' :: zeroPad (width - 1) (octalDigits (n + 1)))

end Converge.Number
