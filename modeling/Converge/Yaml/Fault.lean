/-
  Converge.Yaml.Fault
  ───────────────────
  **WHY A DOCUMENT HAS NO VALUE.**

  Either the text is no document, about which nothing more is said, or it is one and a scalar in it
  is outside what its notation can hold.  The second kind keeps its cause.
-/
import Converge.Text.Quoted
import Converge.Value.Literal

namespace Converge.Yaml

open Converge.Text

/-- A scalar that its notation cannot hold. -/
inductive ScalarFault where
  /-- No integer in the base. -/
  | integer (base : Nat) (text : String)
  /-- An integer with more decimal digits than are read. -/
  | integerTooLong (digits : Nat)
  /-- No number. -/
  | number (text : String)
  /-- An integer outside the range of numbers. -/
  | numberTooLarge
  /-- A number without a digit or sign. -/
  | emptyNumber
  /-- No truth value. -/
  | boolean (text : String)
  /-- No date or time, though tagged as one. -/
  | timestamp
  /-- A mapping that stands for a scalar, tagged as a date or time. -/
  | timestampMapping
  /-- A date or time out of range. -/
  | date (cause : Calendar.OutOfRange)
  /-- An escape for a code point that does not exist. -/
  | codePoint (code : Nat)
deriving DecidableEq, Repr

/-- Why a document has no value. -/
inductive Fault where
  /-- The text is no document. -/
  | malformed
  /-- A scalar has no value. -/
  | scalar (cause : ScalarFault)
deriving DecidableEq, Repr

/-- The longest quoted text in a message about an integer. -/
def quotedLimit : Nat := 200

/-- The most decimal digits of an integer that are read. -/
def digitLimit : Nat := 4300

/-- The least code too large for a machine integer. -/
def codeLimit : Nat := 0x80000000

/-- What is said about a scalar. -/
def ScalarFault.message : ScalarFault → String
  | .integer base text =>
    "invalid literal for int() with base " ++ toString base ++ ": "
      ++ String.ofList ((quote text).toList.take quotedLimit)
  | .integerTooLong digits =>
    "Exceeds the limit (" ++ toString digitLimit
      ++ " digits) for integer string conversion: value has " ++ toString digits
      ++ " digits; use sys.set_int_max_str_digits() to increase the limit"
  | .number text => "could not convert string to float: " ++ quote text
  | .numberTooLarge => "int too large to convert to float"
  | .emptyNumber => "string index out of range"
  | .boolean text => text
  | .timestamp => "'NoneType' object has no attribute 'groupdict'"
  | .timestampMapping => "expected string or bytes-like object, got 'list'"
  | .date cause => cause.message
  | .codePoint code =>
    if codeLimit ≤ code then "Python int too large to convert to C int"
    else "chr() arg not in range(0x110000)"

end Converge.Yaml
