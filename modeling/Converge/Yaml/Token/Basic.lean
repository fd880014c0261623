/-
  Converge.Yaml.Token.Basic
  ─────────────────────────
  **THE TOKENS OF A DOCUMENT.**

  Indentation has become explicit: a block opens and closes with tokens of its own, and a key is
  announced before it, which the text itself tells only by the colon behind it.  A list of tokens ends
  with `streamEnd`, or with the fault that kept the text from being read further.
-/
import Converge.Yaml.Fault

namespace Converge.Yaml

/-- A tag as it is written: the handle, `none` for a tag in full, and what follows. -/
structure TagText where
  /-- The handle. -/
  handle : Option String
  /-- What follows it. -/
  suffix : String
deriving DecidableEq, Repr

/-- A directive. -/
inductive Directive where
  /-- The version of the language: major and minor number. -/
  | version (major minor : Nat)
  /-- A tag handle and what it stands for. -/
  | handle (name stem : String)
  /-- Any other. -/
  | other
deriving DecidableEq, Repr

/-- A token. -/
inductive Token where
  /-- A directive. -/
  | directive (d : Directive)
  /-- The marker before a document. -/
  | documentStart
  /-- The marker after a document. -/
  | documentEnd
  /-- A sequence by indentation opens. -/
  | blockSequence
  /-- A mapping by indentation opens. -/
  | blockMapping
  /-- A block closes. -/
  | blockEnd
  /-- A sequence in brackets opens. -/
  | flowSequence
  /-- A sequence in brackets closes. -/
  | flowSequenceEnd
  /-- A mapping in braces opens. -/
  | flowMapping
  /-- A mapping in braces closes. -/
  | flowMappingEnd
  /-- An item by indentation. -/
  | entry
  /-- What parts items in brackets or braces. -/
  | separator
  /-- A key follows. -/
  | key
  /-- A value follows. -/
  | value
  /-- A node named before. -/
  | alias (name : String)
  /-- A name for the node that follows. -/
  | anchor (name : String)
  /-- A tag for the node that follows. -/
  | tag (t : TagText)
  /-- A scalar, and whether it is plain. -/
  | scalar (plain : Bool) (text : String)
  /-- The text is over. -/
  | streamEnd
  /-- The text cannot be read further. -/
  | fault (f : Fault)
deriving DecidableEq, Repr

end Converge.Yaml
