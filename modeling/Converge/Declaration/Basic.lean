/-
  Converge.Declaration.Basic
  ──────────────────────────
  **READING A DECLARATION, AND LAYING IT OVER DEFAULTS.**

  A declaration is a mapping from field names to values, every field optional.  All that is wrong with
  it is reported at once: the fields in their own order, then the keys that name no field.  A field
  that is null counts as not declared, but it was there: `Slot` keeps the two apart.
-/
import Converge.Declaration.Field
import Converge.Failure

namespace Converge

/-! ## §1. Slots. -/

/-- What a declaration says about a field. -/
inductive Slot (α : Type) where
  /-- The field is not there. -/
  | omitted
  /-- The field is there without a value. -/
  | blank
  /-- The field has a value. -/
  | given (a : α)
deriving DecidableEq, Repr

namespace Slot

/-- The value, or a default where none is declared. -/
def getD {α : Type} (s : Slot α) (default : α) : α :=
  match s with
  | .given a => a
  | _ => default

/-- The value, if one is declared. -/
def value? {α : Type} : Slot α → Option α
  | .given a => some a
  | _ => none

/-- Whether the field is there. -/
def isThere {α : Type} : Slot α → Bool
  | .omitted => false
  | _ => true

/-- Reads the slot of a key. -/
def read {α : Type} (reader : Value → Except String α) (v : Option Value) :
    Except String (Slot α) :=
  match v with
  | none => .ok .omitted
  | some .null => .ok .blank
  | some v => (reader v).map .given

end Slot

/-! ## §2. Declarations. -/

/-- The fields that a declaration may have. -/
inductive Schema where
  /-- Existence alone, which every resource has. -/
  | common
  /-- The fields of a file. -/
  | file
deriving DecidableEq, Repr

/-- The fields in the order in which they are reported. -/
def Schema.fields : Schema → List Field
  | .common => [.state]
  | .file => [.state, .path, .mode, .owner, .group, .source]

/-- A declaration that was accepted. -/
structure Declaration where
  /-- Whether the resource should exist. -/
  state : Slot Existence := .omitted
  /-- Where it is. -/
  path : Slot String := .omitted
  /-- Its permission bits. -/
  mode : Slot Int := .omitted
  /-- Its owner. -/
  owner : Slot String := .omitted
  /-- Its group. -/
  group : Slot String := .omitted
  /-- Where its content comes from. -/
  source : Slot String := .omitted

namespace Declaration

/-- Sets one field from what a declaration holds under its name. -/
def readField (d : Declaration) (f : Field) (v : Option Value) : Except String Declaration :=
  match f with
  | .state => (Slot.read Field.readExistence v).map fun s => { d with state := s }
  | .path => (Slot.read Field.readText v).map fun s => { d with path := s }
  | .mode => (Slot.read Field.readMode v).map fun s => { d with mode := s }
  | .owner => (Slot.read Field.readText v).map fun s => { d with owner := s }
  | .group => (Slot.read Field.readText v).map fun s => { d with group := s }
  | .source => (Slot.read Field.readText v).map fun s => { d with source := s }

/-- The value of a field, null where none is declared. -/
def get (d : Declaration) : Field → Value
  | .state => ((d.state.value?).map fun e => Value.text e.name).getD .null
  | .path => ((d.path.value?).map Value.text).getD .null
  | .mode => ((d.mode.value?).map Value.integer).getD .null
  | .owner => ((d.owner.value?).map Value.text).getD .null
  | .group => ((d.group.value?).map Value.text).getD .null
  | .source => ((d.source.value?).map Value.text).getD .null

/-- Whether a field is there. -/
def has (d : Declaration) : Field → Bool
  | .state => d.state.isThere
  | .path => d.path.isThere
  | .mode => d.mode.isThere
  | .owner => d.owner.isThere
  | .group => d.group.isThere
  | .source => d.source.isThere

/-! ## §3. Reports. -/

/-- Adds a sentence about a name: in the place of an earlier one, or else at the end. -/
def report (errors : List (String × String)) (name message : String) : List (String × String) :=
  match errors with
  | [] => [(name, message)]
  | (n, m) :: rest => if n = name then (n, message) :: rest else (n, m) :: report rest name message

/-- The name by which a key that is no text is reported; a truth value goes by its number. -/
def keyName : Value → String
  | .boolean b => if b then "1" else "0"
  | v => v.literal

/-- What is said about a key that names no field, under the name by which it is reported. -/
def keyError? (schema : Schema) : Value → Option (String × String)
  | .text k =>
    if (schema.fields.map Field.name).contains k then none
    else some (if k = "" then wholeDeclaration else k, "Extra inputs are not permitted")
  | v => some (keyName v, "Keys should be strings")

/-- What has been read of the fields so far, and what is wrong with them. -/
structure Reading where
  /-- The fields read. -/
  declaration : Declaration := {}
  /-- What is wrong. -/
  errors : List (String × String) := []

/-- Reads one field. -/
def Reading.field (pairs : Mapping) (r : Reading) (f : Field) : Reading :=
  match r.declaration.readField f (Mapping.find? f.name pairs) with
  | .ok d => { r with declaration := d }
  | .error message => { r with errors := report r.errors f.name message }

/-- Looks at one key. -/
def Reading.key (schema : Schema) (r : Reading) (p : Value × Value) : Reading :=
  match keyError? schema p.1 with
  | none => r
  | some (name, message) => { r with errors := report r.errors name message }

/-- Reads all fields, then looks at all keys. -/
def Reading.all (schema : Schema) (pairs : Mapping) : Reading :=
  pairs.foldl (Reading.key schema) (schema.fields.foldl (Reading.field pairs) {})

/-- Reads a declaration; null is the empty one. -/
def read (schema : Schema) (id : String) (data : Value) : Except Failure Declaration :=
  let readPairs (pairs : Mapping) : Except Failure Declaration :=
    let r := Reading.all schema pairs
    if r.errors.isEmpty then .ok r.declaration
    else .error (.declaration id (.badFields r.errors))
  match data with
  | .null => readPairs []
  | .mapping pairs => readPairs pairs
  | v => .error (.declaration id (.notMapping v.kindName))

/-- Lays the declared fields over a mapping of defaults. -/
def overlay (schema : Schema) (baseline : Mapping) (d : Declaration) : Mapping :=
  schema.fields.foldl (fun pairs f =>
    match d.get f with
    | .null => pairs
    | v => Mapping.put pairs (.text f.name) v) baseline

end Declaration

end Converge
