/-
  Converge.Yaml.Scalar.Value
  ──────────────────────────
  **WHAT A SCALAR OF A KIND IS WORTH.**

  A written tag may ask for a kind whose form the text does not have; what is read then, and what is
  said when nothing can be read, follows from how the numbers of each kind are put together here.
-/
import Converge.Number.Decimal
import Converge.Text.Base64
import Converge.Yaml.Fault
import Converge.Yaml.Tag

namespace Converge.Yaml

open Converge.Number Converge.Text Converge.Calendar

namespace Scalar

/-- A fault of a scalar. -/
def refuse {α : Type} (f : ScalarFault) : Except Fault α := .error (.scalar f)

/-- The text without underscores. -/
def dropScores (cs : List Char) : List Char := cs.filter (· ≠ '_')

/-- Splits a leading sign off: whether it is a minus, and the rest.  There must be some text. -/
def splitSign (cs : List Char) : Except Fault (Bool × List Char) :=
  match cs with
  | [] => refuse .emptyNumber
  | '-' :: rest => .ok (true, rest)
  | '+' :: rest => .ok (false, rest)
  | cs => .ok (false, cs)

/-- The parts between colons. -/
def sixtyParts (cs : List Char) : List String :=
  (cs.splitOnP (· == ':')).map String.ofList

/-- The decimal digits of a text. -/
def digitCount (cs : List Char) : Nat := cs.countP fun c => (digitValue? c).isSome

/-- An integer in a base. -/
def integerIn (base : Nat) (cs : List Char) : Except Fault Int :=
  match integer? base (String.ofList cs) with
  | none => refuse (.integer base (String.ofList cs))
  | some i =>
    if base = 10 ∧ digitLimit < digitCount cs then refuse (.integerTooLong (digitCount cs))
    else .ok i

/-- The integer with these digits to base sixty. -/
def sixtyInteger (digits : List Int) : Int := digits.foldl (fun n d => n * 60 + d) 0

/-- The magnitude of an integer: by its prefix to base two or sixteen, to base eight behind another
    zero, to base sixty with colons, else to base ten. -/
def magnitude (cs : List Char) : Except Fault Int :=
  match cs with
  | [] => refuse .emptyNumber
  | ['0'] => .ok 0
  | '0' :: 'b' :: digits => integerIn 2 digits
  | '0' :: 'x' :: digits => integerIn 16 digits
  | '0' :: rest => integerIn 8 ('0' :: rest)
  | cs =>
    if cs.contains ':' then do
      return sixtyInteger (← (sixtyParts cs).mapM fun part => integerIn 10 part.toList)
    else integerIn 10 cs

/-- An integer. -/
def integer (cs : List Char) : Except Fault Int := do
  let (negative, rest) ← splitSign (dropScores cs)
  let n ← magnitude rest
  return if negative then -n else n

/-- A number without a sign of its own. -/
def plainNumber (s : String) : Except Fault Binary64 :=
  match Decimal.number? s with
  | some x => .ok x
  | none => refuse (.number s)

/-- Adds digits to base sixty, the last one first, the first of them worth `weight`. -/
def addSixties (sum : Binary64) (weight : Nat) : List Binary64 → Except Fault Binary64
  | [] => .ok sum
  | d :: rest =>
    match Binary64.ofInt? weight with
    | none => refuse .numberTooLarge
    | some w => addSixties (sum.add (d.mul w)) (weight * 60) rest

/-- The number zero. -/
def zero : Binary64 := .finite false 0 Binary64.minExponent

/-- A number with a fraction. -/
def number (cs : List Char) : Except Fault Binary64 := do
  let (negative, rest) ← splitSign ((dropScores cs).map Char.toLower)
  let signed (x : Binary64) : Binary64 := if negative then x.neg else x
  if rest = ['.', 'i', 'n', 'f'] then return signed (.infinite false)
  else if rest = ['.', 'n', 'a', 'n'] then return .nan
  else if rest.contains ':' then
    let digits ← (sixtyParts rest).mapM plainNumber
    return signed (← addSixties zero 1 digits.reverse)
  else return signed (← plainNumber (String.ofList rest))

/-- A truth value, in any case. -/
def boolean (s : String) : Except Fault Bool :=
  let word := lower s
  if ["yes", "true", "on"].contains word then .ok true
  else if ["no", "false", "off"].contains word then .ok false
  else refuse (.boolean word)

/-- Bytes in base 64; the text must be ASCII. -/
def binary (cs : List Char) : Except Fault (List UInt8) :=
  if cs.all fun c => decide (c.toNat < 128) then
    match Base64.decode? cs with
    | some bytes => .ok bytes
    | none => .error .malformed
  else .error .malformed

/-- The first six digits of a fraction of a second, as microseconds. -/
def microseconds (fraction : List Char) : Nat :=
  digitsNumber ((fraction ++ List.replicate 6 '0').take 6)

/-- The time of these fields, if they are in range; the offset is looked at first. -/
def timestampOf (f : TimestampFields) : Except OutOfRange Value := do
  match f.clock with
  | none => return .date (← Date.of f.year f.month f.day)
  | some c =>
    let offset ← match c.offset with
      | none => pure none
      | some seconds => (offsetOf seconds).map some
    return .moment (← DateTime.of f.year f.month f.day c.hour c.minute c.second
      (microseconds c.fraction) offset)

/-- A date, or a date and a time.  A line feed at the end does not count. -/
def timestamp (cs : List Char) : Except Fault Value :=
  match timestampFields? (if cs.getLast? = some '\n' then cs.dropLast else cs) with
  | none => refuse .timestamp
  | some f =>
    match timestampOf f with
    | .ok v => .ok v
    | .error e => refuse (.date e)

end Scalar

/-- The value of a text of a kind; `none` for the kinds that are not those of scalars. -/
def Tag.scalarValue? (t : Tag) (s : String) : Option (Except Fault Value) :=
  match t with
  | .null => some (.ok .null)
  | .boolean => some ((Scalar.boolean s).map .boolean)
  | .integer => some ((Scalar.integer s.toList).map .integer)
  | .number => some ((Scalar.number s.toList).map .decimal)
  | .binary => some ((Scalar.binary s.toList).map .bytes)
  | .timestamp => some (Scalar.timestamp s.toList)
  | .text => some (.ok (.text s))
  | _ => none

end Converge.Yaml
