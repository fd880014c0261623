/-
  Converge.Yaml.Scalar.Form
  ─────────────────────────
  **WHICH PLAIN SCALARS ARE NO TEXT.**

  A plain scalar with the form of a truth value, number, null or time stands for one; every other is
  text.  The forms are those of version 1.1 of the language: integers to base two, eight, ten, sixteen
  and sixty, fractions with a point, and underscores among the digits.
-/
import Converge.Yaml.Cursor

namespace Converge.Yaml

/-! ## §1. Numbers. -/

/-- Leaves out one leading sign. -/
def dropSign : List Char → List Char
  | '-' :: rest => rest
  | '+' :: rest => rest
  | cs => cs

/-- A digit or an underscore. -/
def isDigitOrScore (c : Char) : Bool := c.isDigit || c == '_'

/-- Whether a text is any number of groups of a colon and a number below sixty. -/
def isSixties : List Char → Bool
  | [] => true
  | [':', a] => a.isDigit
  | ':' :: a :: ':' :: rest => a.isDigit && isSixties (':' :: rest)
  | ':' :: a :: b :: rest => decide ('0' ≤ a) && decide (a ≤ '5') && b.isDigit && isSixties rest
  | _ => false

/-- Whether a text has the form of an integer. -/
def isIntegerForm (cs : List Char) : Bool :=
  match dropSign cs with
  | '0' :: 'b' :: digits => !digits.isEmpty && digits.all fun c => c == '0' || c == '1' || c == '_'
  | '0' :: 'x' :: digits =>
    !digits.isEmpty && digits.all fun c =>
      isDigitOrScore c || (decide ('a' ≤ c) && decide (c ≤ 'f')) || (decide ('A' ≤ c) && decide (c ≤ 'F'))
  | '0' :: digits =>
    digits.all fun c => (decide ('0' ≤ c) && decide (c ≤ '7')) || c == '_'
  | c :: rest => c.isDigit && isSixties (rest.dropWhile isDigitOrScore)
  | [] => false

/-- Whether a text is empty or an exponent with its sign. -/
def isExponentForm : List Char → Bool
  | [] => true
  | e :: sign :: digits =>
    (e == 'e' || e == 'E') && (sign == '-' || sign == '+') && !digits.isEmpty
      && digits.all Char.isDigit
  | _ => false

/-- Whether a text is a point, digits, and perhaps an exponent. -/
def isFractionForm : List Char → Bool
  | '.' :: rest => isExponentForm (rest.dropWhile isDigitOrScore)
  | _ => false

/-- Whether a text is groups to base sixty, at least one, with a point and digits after them. -/
def isSixtiesFraction (cs : List Char) : Bool :=
  let groups := cs.takeWhile (· ≠ '.')
  let fraction := cs.dropWhile (· ≠ '.')
  !groups.isEmpty && isSixties groups && !fraction.isEmpty
    && (fraction.drop 1).all isDigitOrScore

/-- Whether a text has the form of a number with a point. -/
def isNumberForm (cs : List Char) : Bool :=
  let body := dropSign cs
  let signed := body.length != cs.length
  match body with
  | '.' :: rest =>
    ["inf", "Inf", "INF"].contains (String.ofList rest)
      || (!signed && (["nan", "NaN", "NAN"].contains (String.ofList rest)
        || (rest.head?.any Char.isDigit && isFractionForm ('.' :: rest))))
  | c :: rest =>
    let after := rest.dropWhile isDigitOrScore
    c.isDigit && (isFractionForm after || isSixtiesFraction after)
  | [] => false

/-! ## §2. Times. -/

/-- The time of day within a timestamp. -/
structure ClockFields where
  /-- The hour. -/
  hour : Nat
  /-- The minute. -/
  minute : Nat
  /-- The second. -/
  second : Nat
  /-- The digits after the point. -/
  fraction : List Char
  /-- The offset from universal time in seconds, if a zone is given. -/
  offset : Option Int

/-- The fields of a timestamp, in range or not. -/
structure TimestampFields where
  /-- The year. -/
  year : Nat
  /-- The month. -/
  month : Nat
  /-- The day. -/
  day : Nat
  /-- The time of day, if there is one. -/
  clock : Option ClockFields

/-- The number that decimal digits spell. -/
def digitsNumber (cs : List Char) : Nat := cs.foldl (fun n c => n * 10 + (c.toNat - '0'.toNat)) 0

/-- Takes between `least` and `most` digits: their number and what is left. -/
def takeNumber? (least most : Nat) (cs : List Char) : Option (Nat × List Char) :=
  let digits := (cs.takeWhile Char.isDigit).take most
  if digits.length < least then none else some (digitsNumber digits, cs.drop digits.length)

/-- Takes one given character. -/
def takeChar? (c : Char) : List Char → Option (List Char)
  | [] => none
  | d :: rest => if d = c then some rest else none

/-- The offset that a zone gives, in seconds: `Z`, or a sign, hours and perhaps minutes. -/
def zoneOffset? (cs : List Char) : Option Int :=
  match cs with
  | ['Z'] => some 0
  | sign :: rest =>
    if sign = '-' ∨ sign = '+' then do
      let (hours, rest) ← takeNumber? 1 2 rest
      let minutes ← match rest with
        | [] => some 0
        | rest => do
          let (minutes, rest) ← takeNumber? 2 2 (← takeChar? ':' rest)
          if rest.isEmpty then some minutes else none
      let seconds : Int := ((hours * 60 + minutes) * 60 : Nat)
      return if sign = '-' then -seconds else seconds
    else none
  | [] => none

/-- Reads the time of day to the end of the text. -/
def clockFields? (cs : List Char) : Option ClockFields := do
  let (hour, rest) ← takeNumber? 1 2 cs
  let (minute, rest) ← takeNumber? 2 2 (← takeChar? ':' rest)
  let (second, rest) ← takeNumber? 2 2 (← takeChar? ':' rest)
  let afterPoint := (takeChar? '.' rest).getD []
  let fraction := afterPoint.takeWhile Char.isDigit
  let rest := if (takeChar? '.' rest).isSome then afterPoint.drop fraction.length else rest
  if rest.isEmpty then return ⟨hour, minute, second, fraction, none⟩
  else return ⟨hour, minute, second, fraction, some (← zoneOffset? (rest.dropWhile isSpaceOrTab))⟩

/-- What parts the date from the time: the letter T or blanks. -/
def dropTimeMark? (cs : List Char) : Option (List Char) :=
  match cs with
  | 'T' :: rest => some rest
  | 't' :: rest => some rest
  | c :: _ => if isSpaceOrTab c then some (cs.dropWhile isSpaceOrTab) else none
  | [] => none

/-- Reads a timestamp to the end of the text. -/
def timestampFields? (cs : List Char) : Option TimestampFields := do
  let (year, rest) ← takeNumber? 4 4 cs
  let (month, rest) ← takeNumber? 1 2 (← takeChar? '-' rest)
  let (day, rest) ← takeNumber? 1 2 (← takeChar? '-' rest)
  if rest.isEmpty then return ⟨year, month, day, none⟩
  else return ⟨year, month, day, some (← clockFields? (← dropTimeMark? rest))⟩

/-- The length of a date without a time in a plain scalar. -/
def plainDateLength : Nat := 10

/-- Whether a text has the form of a timestamp; a date alone needs two digits for month and day. -/
def isTimestampForm (cs : List Char) : Bool :=
  match timestampFields? cs with
  | some f => f.clock.isSome || cs.length == plainDateLength
  | none => false

/-! ## §3. Words. -/

/-- Whether a text is a truth value. -/
def isBooleanForm (cs : List Char) : Bool :=
  ["yes", "Yes", "YES", "no", "No", "NO", "true", "True", "TRUE", "false", "False", "FALSE",
    "on", "On", "ON", "off", "Off", "OFF"].contains (String.ofList cs)

/-- Whether a text stands for nothing. -/
def isNullForm (cs : List Char) : Bool :=
  ["~", "null", "Null", "NULL"].contains (String.ofList cs)

end Converge.Yaml
