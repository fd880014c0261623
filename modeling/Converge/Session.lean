/-
  Converge.Session
  ────────────────
  **ACTIONS ON A MACHINE, WITH A TRANSCRIPT.**

  An action ends in a result or a failure; either way the machine and the transcript stay as they are
  by then, so nothing that was done is undone.
-/
import Converge.Transcript

namespace Converge

/-- A machine and what has been printed. -/
structure Session where
  /-- The machine. -/
  machine : Machine
  /-- What has been printed. -/
  transcript : Transcript := []

/-- An action on a session that may fail. -/
abbrev Act := ExceptT Failure (StateM Session)

namespace Act

/-- Runs an action. -/
def perform {α : Type} (a : Act α) (s : Session) : Except Failure α × Session :=
  StateT.run (ExceptT.run a) s

/-- Looks at the machine. -/
def observe {α : Type} (f : Machine → Except Failure α) : Act α := do
  match f (← get).machine with
  | .ok a => return a
  | .error e => throw e

/-- Makes a system call that changes the machine. -/
def change (f : Machine → Except Machine.CallFailure Machine) : Act Unit := do
  let s ← get
  match f s.machine with
  | .ok m => set { s with machine := m }
  | .error e => throw (.call e)

/-- Prints. -/
def say (e : Entry) : Act Unit :=
  modify fun s => { s with transcript := s.transcript ++ [e] }

theorem perform_pure {α : Type} (a : α) (s : Session) : perform (pure a) s = (.ok a, s) := rfl

theorem perform_throw {α : Type} (e : Failure) (s : Session) :
    perform (throw e : Act α) s = (.error e, s) := rfl

/-- The second action runs where the first one ended, if it did not fail. -/
theorem perform_bind {α β : Type} (a : Act α) (f : α → Act β) (s : Session) :
    perform (a >>= f) s
      = match perform a s with
        | (.ok x, s) => perform (f x) s
        | (.error e, s) => (.error e, s) := by
  show (ExceptT.bind a f).run s = _
  simp only [perform, ExceptT.bind, ExceptT.run, ExceptT.mk, ExceptT.bindCont, StateT.run, bind,
    StateT.bind]
  generalize h : a s = r
  obtain ⟨x, s'⟩ := r
  cases x <;> rfl

theorem perform_say (e : Entry) (s : Session) :
    perform (say e) s = (.ok (), { s with transcript := s.transcript ++ [e] }) := rfl

/-- Looking changes nothing. -/
theorem perform_observe {α : Type} (f : Machine → Except Failure α) (s : Session) :
    perform (observe f) s = (f s.machine, s) := by
  unfold observe
  rw [perform_bind]
  show perform (match f s.machine with
    | .ok a => pure a
    | .error e => throw e) s = _
  cases h : f s.machine <;> rfl

/-- A call that succeeds replaces the machine; one that fails leaves it. -/
theorem perform_change (f : Machine → Except Machine.CallFailure Machine) (s : Session) :
    perform (change f) s
      = match f s.machine with
        | .ok m => (.ok (), { s with machine := m })
        | .error e => (.error (.call e), s) := by
  unfold change
  rw [perform_bind]
  show perform (match f s.machine with
    | .ok m => set { s with machine := m }
    | .error e => throw (.call e)) s = _
  cases h : f s.machine <;> rfl

end Act

end Converge
