/-
  Converge.Registry
  ─────────────────
  **THE KINDS OF RESOURCES, BY NAME.**

  A registry is a map from names to kinds in which the first registration of a name stays.  Its
  listing is in the order of the names, character by character.
-/
import Converge.FileResource.Basic

namespace Converge

/-- A kind of resource. -/
structure Kind where
  /-- Its name. -/
  name : String
  /-- What it does. -/
  description : String
  /-- How one is built from a title and a declaration. -/
  build : Machine → String → Value → Except Failure FileResource

/-- The registered kinds, in the order of registration. -/
structure Registry where
  /-- The kinds. -/
  kinds : List Kind := []

/-- The kind of files. -/
def FileResource.asKind : Kind := ⟨FileResource.kind, FileResource.description, FileResource.build⟩

namespace Registry

/-- The kind with a name. -/
def lookup? (r : Registry) (name : String) : Option Kind := r.kinds.find? (·.name == name)

/-- Whether a name is registered. -/
def contains (r : Registry) (name : String) : Bool := (r.lookup? name).isSome

/-- Registers a kind, unless its name is taken. -/
def register (r : Registry) (k : Kind) : Except Failure Registry :=
  if r.contains k.name then .error (.duplicateKind k.name) else .ok ⟨r.kinds ++ [k]⟩

/-- How many kinds are registered. -/
def size (r : Registry) : Nat := r.kinds.length

/-- The names in order. -/
def names (r : Registry) : List String := (r.kinds.map (·.name)).mergeSort fun a b => decide (a ≤ b)

/-- The kinds in the order of their names. -/
def items (r : Registry) : List Kind := r.names.filterMap r.lookup?

/-- Builds a resource of the kind with a name. -/
def build (r : Registry) (m : Machine) (name title : String) (data : Value) :
    Except Failure FileResource :=
  match r.lookup? name with
  | none => .error (.config (.unknownKind name r.names))
  | some k => k.build m title data

/-- The registry of all kinds that there are. -/
def standard : Registry := ⟨[FileResource.asKind]⟩

/-- A name is refused exactly when it is taken. -/
theorem register_eq_error_iff (r : Registry) (k : Kind) (f : Failure) :
    r.register k = .error f ↔ r.contains k.name = true ∧ f = .duplicateKind k.name := by
  unfold register
  split
  · rename_i h
    simp [h, eq_comm]
  · rename_i h
    simp [h]

end Registry

end Converge
