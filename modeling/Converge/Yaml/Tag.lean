/-
  Converge.Yaml.Tag
  ─────────────────
  **THE KINDS OF NODES.**

  A tag says what a node stands for.  Tags that are written name one of the standard kinds by its
  identifier, or no kind that is known; a scalar without a tag has the kind that its form gives it if
  it is plain, and is text otherwise.
-/
import Converge.Yaml.Scalar.Form

namespace Converge.Yaml

/-- What a node stands for. -/
inductive Tag where
  /-- Nothing. -/
  | null
  /-- A truth value. -/
  | boolean
  /-- An integer. -/
  | integer
  /-- A number with a fraction. -/
  | number
  /-- Bytes in base 64. -/
  | binary
  /-- A date, or a date and a time. -/
  | timestamp
  /-- A list of pairs without an equal key. -/
  | orderedMapping
  /-- A list of pairs. -/
  | pairs
  /-- A set. -/
  | set
  /-- Text. -/
  | text
  /-- A list. -/
  | sequence
  /-- A mapping. -/
  | mapping
  /-- As a key: the pairs of its value belong to the mapping. -/
  | merge
  /-- As a key: its value stands for the mapping. -/
  | default
  /-- No known kind. -/
  | unknown
deriving DecidableEq, Repr

namespace Tag

/-- What the identifiers of the standard kinds start with. -/
def standardStem : String := "tag:yaml.org,2002:"

/-- The kinds that can be written, by identifier. -/
def names : List (String × Tag) :=
  [("null", .null), ("bool", .boolean), ("int", .integer), ("float", .number), ("binary", .binary),
    ("timestamp", .timestamp), ("omap", .orderedMapping), ("pairs", .pairs), ("set", .set),
    ("str", .text), ("seq", .sequence), ("map", .mapping), ("merge", .merge), ("value", .default)]

/-- The kind with an identifier. -/
def ofIdentifier (identifier : String) : Tag :=
  ((names.find? fun p => standardStem ++ p.1 == identifier).map (·.2)).getD .unknown

/-- The kind that the form of a text gives. -/
def ofForm (cs : List Char) : Tag :=
  if isBooleanForm cs then .boolean
  else if isNumberForm cs then .number
  else if isIntegerForm cs then .integer
  else if cs = ['<', '<'] then .merge
  else if isNullForm cs then .null
  else if isTimestampForm cs then .timestamp
  else if cs = ['='] then .default
  else if cs = ['!'] ∨ cs = ['&'] ∨ cs = ['*'] then .unknown
  else .text

/-- The kind of a scalar that is left to its form.  A line feed at the end does not count, but a line
    feed alone is text. -/
def ofPlain (s : String) : Tag :=
  match s.toList with
  | [] => .null
  | ['\n'] => .text
  | cs => ofForm (if cs.getLast? = some '\n' then cs.dropLast else cs)

end Tag

end Converge.Yaml
