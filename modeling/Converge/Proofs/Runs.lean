/-
  Converge.Proofs.Runs
  ────────────────────
  **A RUN, RESOURCE BY RESOURCE.**

  What a run does with one resource is what its step does, and a line about its failure; a run over
  two lists is a run over the first and then, if that did not break off, a run over the second.
-/
import Converge.Proofs.Act
import Converge.Runner

namespace Converge.Runner

open Act

/-- The outcome of a resource whose step ended in a state. -/
def success (r : FileResource) (s : State) : Outcome := { resource := r, state := some s }

/-- The outcome of a resource that failed. -/
def fault (r : FileResource) (f : Failure) : Outcome :=
  { resource := r, state := f.state?, failure := some f }

/-- **What becomes of one resource**: its state, or a failure that is noted, or one that is not
    contained. -/
theorem perform_runOne (mode : Mode) (o : Options) (r : FileResource) (s : Session) :
    perform (runOne mode o r) s =
      match perform (step mode o r) s with
      | (.ok st, s₁) => (.ok (success r st), s₁)
      | (.error f, s₁) =>
        if isContained f then
          (.ok (fault r f),
            { s₁ with transcript := s₁.transcript ++ [.failed (f.messageFor r.id)] })
        else (.error f, s₁) := by
  unfold runOne
  rw [perform_tryCatch, perform_bind]
  match perform (step mode o r) s with
  | (.ok st, s₁) => rfl
  | (.error f, s₁) =>
    cases hf : isContained f with
    | true =>
      simp only [hf, if_true]
      rfl
    | false =>
      simp only [hf, Bool.false_eq_true, if_false]
      rfl

/-- The line about a failure leaves the machine alone. -/
theorem machine_runOne (mode : Mode) (o : Options) (r : FileResource) (s : Session) :
    (perform (runOne mode o r) s).2.machine = (perform (step mode o r) s).2.machine := by
  rw [perform_runOne]
  match perform (step mode o r) s with
  | (.ok st, s₁) => rfl
  | (.error f, s₁) =>
    dsimp only
    split <;> rfl

theorem run_nil (mode : Mode) (o : Options) : run mode o [] = pure [] := rfl

theorem run_cons (mode : Mode) (o : Options) (r : FileResource) (rest : List FileResource) :
    run mode o (r :: rest) = (do
      let outcome ← runOne mode o r
      let outcomes ← run mode o rest
      return outcome :: outcomes) := rfl

/-- A run over two lists is two runs. -/
theorem run_append (mode : Mode) (o : Options) (front back : List FileResource) :
    run mode o (front ++ back) = (do
      let first ← run mode o front
      let second ← run mode o back
      return first ++ second) := by
  induction front with
  | nil => simp [run_nil]
  | cons r rest ih =>
    rw [List.cons_append, run_cons, run_cons, ih]
    simp only [bind_assoc, pure_bind, List.cons_append]

/-- A run over one resource. -/
theorem run_singleton (mode : Mode) (o : Options) (r : FileResource) :
    run mode o [r] = (do return [← runOne mode o r]) := by
  rw [run_cons, run_nil]
  simp only [pure_bind]

/-- The machine after a run, whether it ends or breaks off. -/
def machineAfter (mode : Mode) (o : Options) (rs : List FileResource) (s : Session) : Machine :=
  (perform (run mode o rs) s).2.machine

/-- One more resource: if the run had broken off the machine stays as it was, else it is as the step on
    that resource leaves it. -/
theorem machineAfter_snoc (mode : Mode) (o : Options) (front : List FileResource) (r : FileResource)
    (s : Session) :
    machineAfter mode o (front ++ [r]) s =
      match perform (run mode o front) s with
      | (.ok _, s₁) => (perform (step mode o r) s₁).2.machine
      | (.error _, s₁) => s₁.machine := by
  unfold machineAfter
  rw [run_append, perform_bind]
  match perform (run mode o front) s with
  | (.error f, s₁) => rfl
  | (.ok outcomes, s₁) =>
    dsimp only
    rw [run_singleton, bind_assoc, perform_bind, ← machine_runOne]
    match perform (runOne mode o r) s₁ with
    | (.ok outcome, s₂) => rfl
    | (.error f, s₂) => rfl

end Converge.Runner
