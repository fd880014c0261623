/-
  Converge.State
  ──────────────
  **WHAT IS, WHAT IS WANTED, AND WHERE THEY DIFFER.**

  A state compares a resource's existence with the existence that is declared, and lists the
  attributes that differ.  Which action it calls for depends on the two existences and on `update`.
-/
import Converge.Value.Literal

namespace Converge

open Converge.Text

/-- Whether a resource exists. -/
inductive Existence where
  /-- Not known: nothing has been looked at. -/
  | unknown
  /-- It exists. -/
  | present
  /-- It does not. -/
  | absent
deriving DecidableEq, Repr

namespace Existence

/-- How an existence is written. -/
def name : Existence → String
  | .unknown => "unknown"
  | .present => "present"
  | .absent => "absent"

/-- The existence that a text names. -/
def ofName? (s : String) : Option Existence :=
  if s = "unknown" then some .unknown
  else if s = "present" then some .present
  else if s = "absent" then some .absent
  else none

@[simp] theorem ofName?_name (e : Existence) : ofName? e.name = some e := by
  cases e <;> simp [name, ofName?]

end Existence

/-- An attribute that differs. -/
structure Difference where
  /-- The resource. -/
  resourceId : String
  /-- The attribute. -/
  field : String
  /-- What is declared. -/
  desired : Value
  /-- What is there. -/
  actual : Value
  /-- How much it matters: error, warning or info. -/
  severity : String

namespace Difference

/-- The severity of a difference that is to be mended. -/
def warning : String := "warning"

/-- The severity of a difference that is only shown. -/
def info : String := "info"

/-- A difference as a literal; the severity is left out. -/
def literal (d : Difference) : String :=
  "StateDiff(" ++ quote d.resourceId ++ ", " ++ quote d.field ++ ", desired=" ++ d.desired.literal
    ++ ", actual=" ++ d.actual.literal ++ ")"

end Difference

/-- The outcome of looking at a resource. -/
structure State where
  /-- Whether it exists. -/
  current : Existence := .unknown
  /-- Whether it should. -/
  want : Existence := .present
  /-- Whether an attribute differs. -/
  update : Bool := false
  /-- The attributes that differ. -/
  differences : List Difference := []

namespace State

/-- It does not exist and should. -/
def needsCreate (s : State) : Bool := s.current == .absent && s.want == .present

/-- It exists and should not. -/
def needsDelete (s : State) : Bool := s.current == .present && s.want == .absent

/-- It exists as it should, but an attribute differs. -/
def needsUpdate (s : State) : Bool := s.current == .present && s.want == .present && s.update

/-- There is nothing to do. -/
def inSync (s : State) : Bool := s.current == s.want && !s.update

/-- The state of a resource that does not exist. -/
def ofAbsent (want : Existence) : State := ⟨.absent, want, false, []⟩

/-- The state of a resource that exists and differs in the given attributes. -/
def ofPresent (want : Existence) (differences : List Difference) : State :=
  ⟨.present, want, !differences.isEmpty, differences⟩

/-- A resource in sync needs no action. -/
theorem no_action_of_inSync {s : State} (h : s.inSync = true) :
    s.needsCreate = false ∧ s.needsDelete = false ∧ s.needsUpdate = false := by
  obtain ⟨current, want, update, _⟩ := s
  cases current <;> cases want <;> cases update <;>
    simp_all [inSync, needsCreate, needsDelete, needsUpdate]

end State

end Converge
