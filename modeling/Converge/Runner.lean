/-
  Converge.Runner
  ───────────────
  **RUNNING OVER MANY RESOURCES, AND SHOWING THE OUTCOME.**

  Resources are taken in order.  A failure of a resource or a refusal of the system is printed, noted
  in the resource's outcome, and the run goes on; any other failure ends it.  The outcomes are shown as
  a table with one row each.
-/
import Converge.Reconcile

namespace Converge

/-- What became of a resource. -/
structure Outcome where
  /-- The resource. -/
  resource : FileResource
  /-- Its state, as far as it was found. -/
  state : Option State := none
  /-- Why it failed, if it did. -/
  failure : Option Failure := none

namespace Outcome

/-- Whether the resource was processed without failure. -/
def ok (o : Outcome) : Bool := o.failure.isNone

end Outcome

/-- Whether resources are looked at or brought to their state. -/
inductive Mode where
  /-- Looked at. -/
  | plan
  /-- Brought to their state. -/
  | apply
deriving DecidableEq, Repr

namespace Runner

/-! ## §1. Running. -/

/-- Whether a failure concerns its resource alone. -/
def isContained (f : Failure) : Bool := f.isAboutInput || f.isRefusal

/-- What is done with each resource. -/
def step (mode : Mode) (o : Options) (r : FileResource) : Act State :=
  match mode with
  | .plan => Act.observe (r.evaluate o)
  | .apply => r.reconcile o

/-- Processes one resource. -/
def runOne (mode : Mode) (o : Options) (r : FileResource) : Act Outcome :=
  tryCatch (do return { resource := r, state := some (← step mode o r) }) fun f =>
    if isContained f then do
      Act.say (.failed (f.messageFor r.id))
      return { resource := r, state := f.state?, failure := some f }
    else throw f

/-- Processes all resources in order. -/
def run (mode : Mode) (o : Options) : List FileResource → Act (List Outcome)
  | [] => return []
  | r :: rest => do
    let outcome ← runOne mode o r
    let outcomes ← run mode o rest
    return outcome :: outcomes

/-! ## §2. Showing. -/

/-- The title of a table that is given none. -/
def defaultTitle : String := "Estado de recursos"

/-- The headings of the table. -/
def columns : List String := ["Recurso", "Actual", "Deseado", "Update", "Diferencias"]

/-- The markup of a difference: the attribute, what is there and what is declared. -/
def differenceMarkup (d : Difference) : String :=
  d.field ++ ": " ++ Markup.escape d.actual.plain ++ " → " ++ Markup.escape d.desired.plain

/-- What stands for the differences of a resource that failed. -/
def errorMarkup : String := Markup.styled "red" "error"

/-- The markup of a row. -/
def rowMarkup (o : Outcome) : List String :=
  let id := Markup.escape o.resource.id
  match o.state with
  | none => [id, "-", "-", "-", errorMarkup]
  | some s =>
    [id, s.current.name, s.want.name, if s.update then "sí" else "no",
      if o.ok then "\n".intercalate (s.differences.map differenceMarkup) else errorMarkup]

/-- The rows as they are printed. -/
def rows (outcomes : List Outcome) : Except MarkupFault (List (List String)) :=
  outcomes.mapM fun o => (rowMarkup o).mapM Markup.render

/-- Shows the outcomes, then how many failed. -/
def display (title : String) (outcomes : List Outcome) : Act Unit := do
  match rows outcomes with
  | .error fault => throw (.markup fault)
  | .ok rows =>
    Act.say (.table ⟨title, columns, rows⟩)
    Act.say (.summary (outcomes.countP fun o => !o.ok) outcomes.length)

end Runner

end Converge
