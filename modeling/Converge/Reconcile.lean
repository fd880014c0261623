/-
  Converge.Reconcile
  ──────────────────
  **BRINGING A FILE TO ITS DECLARED STATE.**

  A file is evaluated, the action that its state calls for is taken, and it is evaluated again.  Where
  there is nothing to do, and in a dry run, the first state is the answer.
-/
import Converge.FileResource.Steps

namespace Converge

/-- What a state calls for. -/
inductive Action where
  /-- Creating the file. -/
  | create
  /-- Deleting it. -/
  | delete
  /-- Setting attributes. -/
  | update
deriving DecidableEq, Repr

/-- The action that a state calls for, if any. -/
def State.action? (s : State) : Option Action :=
  if s.needsCreate then some .create
  else if s.needsDelete then some .delete
  else if s.needsUpdate then some .update
  else none

namespace FileResource

/-- Takes an action. -/
def act (r : FileResource) (o : Options) : Action → Act Unit
  | .create => r.create o
  | .delete => r.delete o
  | .update => r.update o

/-- Brings a file to its declared state. -/
def reconcile (r : FileResource) (o : Options) : Act State := do
  let s ← Act.observe (r.evaluate o)
  match s.action? with
  | none => return s
  | some a =>
    r.act o a
    -- a dry run has changed nothing, so its first state still holds
    if o.dryRun then return s else Act.observe (r.evaluate o)

end FileResource

end Converge
