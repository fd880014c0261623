/-
  Converge.Text.Base64
  ────────────────────
  **BYTES IN BASE 64.**

  Four characters are three bytes.  Characters outside the alphabet are passed over.  Padding counts
  only where it can complete a group, and ends the data there; without it the data must end with a
  whole group.
-/

namespace Converge.Text.Base64

/-- The six bits that a character stands for. -/
def sextet? (c : Char) : Option Nat :=
  if 'A' ≤ c ∧ c ≤ 'Z' then some (c.toNat - 'A'.toNat)
  else if 'a' ≤ c ∧ c ≤ 'z' then some (c.toNat - 'a'.toNat + 26)
  else if '0' ≤ c ∧ c ≤ '9' then some (c.toNat - '0'.toNat + 52)
  else if c = '+' then some 62
  else if c = '/' then some 63
  else none

/-- The character that completes a last group. -/
def padding : Char := '='

/-- Decodes with `filled` characters of the current group read, `bits` left over from the last of them,
    and `pads` padding characters since. -/
def decodeFrom (filled bits pads : Nat) : List Char → Option (List UInt8)
  | [] => if filled = 0 then some [] else none
  | c :: rest =>
    if c = padding then
      if 2 ≤ filled then
        if 4 ≤ filled + pads + 1 then some [] else decodeFrom filled bits (pads + 1) rest
      else decodeFrom filled bits pads rest
    else
      match sextet? c with
      | none => decodeFrom filled bits pads rest
      | some v =>
        match filled with
        | 0 => decodeFrom 1 v 0 rest
        | 1 => (decodeFrom 2 (v % 16) 0 rest).map (UInt8.ofNat (bits * 4 + v / 16) :: ·)
        | 2 => (decodeFrom 3 (v % 4) 0 rest).map (UInt8.ofNat (bits * 16 + v / 4) :: ·)
        | _ => (decodeFrom 0 0 0 rest).map (UInt8.ofNat (bits * 64 + v) :: ·)

/-- The bytes that a text stands for. -/
def decode? (cs : List Char) : Option (List UInt8) := decodeFrom 0 0 0 cs

end Converge.Text.Base64
