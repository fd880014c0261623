/-
  Converge.Value.Literal
  ──────────────────────
  **VALUES AS MESSAGES SHOW THEM.**

  A value inside a message is written as a literal: text in quotes, lists in brackets, mappings in
  braces, dates and times with the names of their fields left out.  `Value.plain` is the same but
  for text, which stands for itself.
-/
import Converge.Text.Quoted
import Converge.Value.Basic

namespace Converge

open Converge.Number Converge.Calendar Converge.Text

namespace Calendar

/-- A span of time in seconds, as whole days and the seconds of a day that is left. -/
def durationLiteral (seconds : Int) : String :=
  let days := seconds.fdiv secondsPerDay
  let rest := seconds.fmod secondsPerDay
  let fields :=
    (if days = 0 then [] else ["days=" ++ toString days])
      ++ (if rest = 0 then [] else ["seconds=" ++ toString rest])
  "datetime.timedelta(" ++ (if fields.isEmpty then "0" else ", ".intercalate fields) ++ ")"

/-- An offset from universal time; that of universal time itself has a name. -/
def offsetLiteral (seconds : Int) : String :=
  if seconds = 0 then "datetime.timezone.utc"
  else "datetime.timezone(" ++ durationLiteral seconds ++ ")"

/-- A date. -/
def Date.literal (d : Date) : String :=
  "datetime.date(" ++ ", ".intercalate [toString d.year, toString d.month, toString d.day] ++ ")"

/-- A date with a time; seconds and their fraction are left out when they and all after are zero. -/
def DateTime.literal (t : DateTime) : String :=
  let seconds :=
    if t.microsecond ≠ 0 then [toString t.second, toString t.microsecond]
    else if t.second ≠ 0 then [toString t.second]
    else []
  let zone := match t.offset with
    | none => []
    | some o => ["tzinfo=" ++ offsetLiteral o]
  "datetime.datetime(" ++ ", ".intercalate
    ([toString t.date.year, toString t.date.month, toString t.date.day, toString t.hour,
      toString t.minute] ++ seconds ++ zone) ++ ")"

/-- What a refusal of a date or time says. -/
def OutOfRange.message : OutOfRange → String
  | .year y => "year " ++ toString y ++ " is out of range"
  | .month => "month must be in 1..12"
  | .day => "day is out of range for month"
  | .hour => "hour must be in 0..23"
  | .minute => "minute must be in 0..59"
  | .second => "second must be in 0..59"
  | .offset seconds =>
    "offset must be a timedelta strictly between -timedelta(hours=24) and timedelta(hours=24), not "
      ++ durationLiteral seconds ++ "."

end Calendar

namespace Value

/-- The members joined by commas; a tuple of one keeps its comma. -/
def tupleLiteral : List String → String
  | [one] => "(" ++ one ++ ",)"
  | items => "(" ++ ", ".intercalate items ++ ")"

/-- The members of a set; the empty set has no members to put in braces. -/
def setLiteral : List String → String
  | [] => "set()"
  | items => "\x7b" ++ ", ".intercalate items ++ "\x7d"

mutual

/-- A value as a literal. -/
def literal : Value → String
  | .null => "None"
  | .boolean b => if b then "True" else "False"
  | .integer i => toString i
  | .decimal x => Decimal.text x
  | .text s => quote s
  | .bytes bs => quoteBytes bs
  | .date d => d.literal
  | .moment t => t.literal
  | .list items => "[" ++ ", ".intercalate (literals items) ++ "]"
  | .tuple items => tupleLiteral (literals items)
  | .set items => setLiteral (literals items)
  | .mapping pairs => "\x7b" ++ ", ".intercalate (pairLiterals pairs) ++ "\x7d"

/-- The literals of a list of values. -/
def literals : List Value → List String
  | [] => []
  | v :: vs => literal v :: literals vs

/-- The literals of the pairs of a mapping. -/
def pairLiterals : List (Value × Value) → List String
  | [] => []
  | (k, v) :: rest => (literal k ++ ": " ++ literal v) :: pairLiterals rest

end

/-- A value as it stands in running text: text as itself, all else as a literal. -/
def plain : Value → String
  | .text s => s
  | v => literal v

end Value

end Converge
