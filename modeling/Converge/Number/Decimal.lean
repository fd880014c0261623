/-
  Converge.Number.Decimal
  ───────────────────────
  **DECIMAL TEXT OF BINARY64 NUMBERS.**

  Writing uses the fewest digits that read back as the same number, and of those the nearest to
  it; `Layout` says where positional notation ends and how an exponent looks.  Reading takes a
  decimal with an optional fraction and exponent, and the names of infinity and "not a number",
  and rounds the exact value once.
-/
import Converge.Number.Binary64
import Converge.Number.Numeral

namespace Converge.Number

open Converge.Text

namespace Decimal

/-! ## §1. The fewest digits that read back. -/

/-- The reals that round to a number: both ends, over a common denominator, and whether the ends
    belong to it. -/
structure Interval where
  /-- Numerator of the lower end. -/
  low : Nat
  /-- Numerator of the upper end. -/
  high : Nat
  /-- The denominator. -/
  den : Nat
  /-- Whether the ends round to the number too. -/
  closed : Bool

/-- The interval of `m · 2^e`.  Below a power of two the next number is half as far away. -/
def roundingInterval (m : Nat) (e : Int) : Interval :=
  let (n, d) := Binary64.magnitude 1 (e - 2)
  let below := if m = Nat.pow 2 52 ∧ Binary64.minExponent < e then 4 * m - 1 else 4 * m - 2
  ⟨below * n, (4 * m + 2) * n, d, m % 2 == 0⟩

/-- Whether the ratio `n / d` lies in the interval. -/
def Interval.holds (i : Interval) (n d : Nat) : Bool :=
  if i.closed then decide (i.low * d ≤ n * i.den) && decide (n * i.den ≤ i.high * d)
  else decide (i.low * d < n * i.den) && decide (n * i.den < i.high * d)

/-- The position of the decimal point of a positive ratio: the `p` with `10^(p-1) ≤ n/d < 10^p`. -/
def pointOf (n d : Nat) : Int :=
  if d ≤ n then ((Nat.toDigits 10 (n / d)).length : Int)
  else
    let z := (Nat.toDigits 10 (d / n)).length
    if n * Nat.pow 10 (z - 1) = d then 2 - (z : Int) else 1 - (z : Int)

/-- The ratio times a power of ten. -/
def scaleTen (n d : Nat) : Int → Nat × Nat
  | .ofNat k => (n * Nat.pow 10 k, d)
  | .negSucc k => (n, d * Nat.pow 10 (k + 1))

/-- The nearest point in the interval among the two neighbours of `n / d` on the grid `10^k`. -/
def gridPoint? (i : Interval) (n d : Nat) (k : Int) : Option Nat :=
  let (sn, sd) := scaleTen n d (-k)
  let down := sn / sd
  let inside (c : Nat) : Bool :=
    let (cn, cd) := scaleTen c 1 k
    i.holds cn cd
  let rest := sn % sd
  -- if any point of the grid lies in the interval, so does one of these two
  match inside down, inside (down + 1) with
  | true, true =>
    if 2 * rest < sd then some down
    else if sd < 2 * rest then some (down + 1)
    else some (if down % 2 = 0 then down else down + 1)
  | true, false => some down
  | false, true => some (down + 1)
  | false, false => none

/-- Tries grids from `count` digits upwards, at most `more` of them. -/
def shortestFrom (i : Interval) (n d : Nat) (point : Int) (count : Nat) : Nat → Option (Nat × Int)
  | 0 => none
  | more + 1 =>
    let k := point - count
    match gridPoint? i n d k with
    | some c => some (c, k)
    | none => shortestFrom i n d point (count + 1) more

/-- The digits of a positive number without trailing zeros, and the position of the decimal point
    counted from before the first digit. -/
def shortest (m : Nat) (e : Int) : List Char × Int :=
  let (n, d) := Binary64.magnitude m e
  match shortestFrom (roundingInterval m e) n d (pointOf n d) 1 17 with
  | some (c, k) =>
    let digits := Nat.toDigits 10 c
    let kept := (digits.reverse.dropWhile (· == '0')).reverse
    (kept, k + (digits.length : Int))
  | none => (['0'], 1)

/-! ## §2. Laying the digits out. -/

/-- How digits and the position of the point become text. -/
structure Layout where
  /-- The least position of the point written without an exponent. -/
  leastPoint : Int
  /-- The greatest position of the point written without an exponent. -/
  greatestPoint : Int
  /-- The least number of digits of an exponent. -/
  exponentWidth : Nat
  /-- The text of infinity. -/
  infinity : String
  /-- The text of "not a number". -/
  notANumber : String

/-- Values are shown positionally from 0.0001 to below 10^16, always with a point, and otherwise
    with a signed exponent of at least two digits. -/
def valueLayout : Layout := ⟨-3, 16, 2, "inf", "nan"⟩

/-- The digits with the point at position `point`, at least one digit on each side of it. -/
def positional (digits : List Char) (point : Int) : List Char :=
  match point with
  | .ofNat 0 => '0' :: '.' :: digits
  | .negSucc k => '0' :: '.' :: (List.replicate (k + 1) '0' ++ digits)
  | .ofNat k =>
    if digits.length ≤ k then digits ++ List.replicate (k - digits.length) '0' ++ ['.', '0']
    else digits.take k ++ '.' :: digits.drop k

/-- The digits with the point after the first, and an exponent. -/
def scientific (width : Nat) (digits : List Char) (point : Int) : List Char :=
  let exponent := point - 1
  let mantissa := match digits with
    | first :: second :: rest => first :: '.' :: second :: rest
    | one => one
  let sign := if exponent < 0 then '-' else '+'
  mantissa ++ 'e' :: sign :: zeroPad width (Nat.toDigits 10 exponent.natAbs)

/-- The text of a number in a layout. -/
def render (layout : Layout) : Binary64 → String
  | .nan => layout.notANumber
  | .infinite negative => (if negative then "-" else "") ++ layout.infinity
  | .finite negative m e =>
    let body :=
      if m = 0 then ['0', '.', '0']
      else
        let (digits, point) := shortest m e
        if layout.leastPoint ≤ point ∧ point ≤ layout.greatestPoint then positional digits point
        else scientific layout.exponentWidth digits point
    (if negative then "-" else "") ++ String.ofList body

/-- The text of a number as messages and answers show it. -/
def text (x : Binary64) : String := render valueLayout x

/-! ## §3. Reading. -/

/-- The leading decimal digits of any script: their values, and the rest. -/
def spanDigits : List Char → List Nat × List Char
  | [] => ([], [])
  | c :: rest =>
    match digitValue? c with
    | some d => let (ds, rest) := spanDigits rest; (d :: ds, rest)
    | none => ([], c :: rest)

/-- The natural number with these decimal digits. -/
def digitsValue (ds : List Nat) : Nat := ds.foldl (fun n d => n * 10 + d) 0

/-- The number `digits · 10^exponent`, rounded.  Outside the range of all numbers no power is formed. -/
def ofScaled (negative : Bool) (digits : Nat) (exponent : Int) : Binary64 :=
  if digits = 0 then .finite negative 0 Binary64.minExponent
  else
    let point := exponent + ((Nat.toDigits 10 digits).length : Int)
    if 400 < point then .infinite negative
    else if point < -400 then .finite negative 0 Binary64.minExponent
    else let (n, d) := scaleTen digits 1 exponent; Binary64.ofRatio negative n d

/-- An exponent: `e`, an optional sign, and digits.  `some 0` on the empty text. -/
def exponent? : List Char → Option Int
  | [] => some 0
  | c :: rest =>
    if c = 'e' ∨ c = 'E' then
      let signed := match rest with
        | '-' :: rest => (true, rest)
        | '+' :: rest => (false, rest)
        | rest => (false, rest)
      match spanDigits signed.2 with
      | ([], _) => none
      | (ds, []) => some (if signed.1 then -(digitsValue ds : Int) else (digitsValue ds : Int))
      | _ => none
    else none

/-- An unsigned number. -/
def unsigned? (negative : Bool) (cs : List Char) : Option Binary64 :=
  let word := String.ofList (cs.map Char.toLower)
  if word = "inf" ∨ word = "infinity" then some (.infinite negative)
  else if word = "nan" then some .nan
  else
    let (whole, rest) := spanDigits cs
    let (fraction, rest) := match rest with
      | '.' :: rest => spanDigits rest
      | rest => ([], rest)
    if whole.isEmpty && fraction.isEmpty then none
    else (exponent? rest).map fun e =>
      ofScaled negative (digitsValue (whole ++ fraction)) (e - (fraction.length : Int))

/-- The number that a text spells, blanks around it allowed. -/
def number? (s : String) : Option Binary64 :=
  match trimBy isNumeralBlank s.toList with
  | '-' :: rest => unsigned? true rest
  | '+' :: rest => unsigned? false rest
  | cs => unsigned? false cs

end Decimal

end Converge.Number
