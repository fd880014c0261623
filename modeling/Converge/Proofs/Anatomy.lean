/-
  Converge.Proofs.Anatomy
  ───────────────────────
  **WHAT ACTIONS ARE MADE OF.**

  Creating, mending and deleting are looks at the machine and steps, each printed before it is taken.
  So what can be said of looks and steps, and goes through to actions that are bound together, can be
  said of whole actions and of runs over many resources.

  Main results:
    * `Covers.act`, `Covers.reconcile` — from looks and steps to actions;
    * `Handles.run` — from one resource to a run;
    * `Still.covers` — looks and dry runs leave the machine alone;
    * `Twin.covers_self` — no action depends on what was printed before it.
-/
import Converge.Proofs.Runs
import Converge.Proofs.Steps

namespace Converge.FileResource

open Converge.Machine Act

/-! ## §1. Steps. -/

/-- Prints a step, then takes it, unless the run is dry. -/
def enact (r : FileResource) (o : Options) (message : String)
    (call : Machine → Except CallFailure Machine) : Act Unit := do
  r.progress o message
  take o call

/-- The steps of a resource: what is printed, and the call that is announced by it. -/
inductive Announces (r : FileResource) :
    String → (Machine → Except CallFailure Machine) → Prop where
  | opening : Announces r "creando archivo" (·.create r.path)
  | owner (uid gid : Int) : Announces r r.ownerMessage (·.chown r.path uid gid)
  | mode : Announces r r.modeMessage (·.chmod r.path r.mode.toNat)
  | removal : Announces r "eliminando archivo" (·.remove r.path)

variable {r : FileResource} {o : Options}

/-- A step is printed, and unless the run is dry its call is made. -/
theorem perform_enact (r : FileResource) (o : Options) (message : String)
    (call : Machine → Except CallFailure Machine) (s : Session) :
    perform (r.enact o message call) s =
      let said := s.transcript ++ [.progress o.dryRun r.id message]
      if o.dryRun then (.ok (), ⟨s.machine, said⟩)
      else
        match call s.machine with
        | .ok m => (.ok (), ⟨m, said⟩)
        | .error e => (.error (.call e), ⟨s.machine, said⟩) := by
  unfold enact progress take
  rw [perform_bind, perform_say]
  cases o.dryRun with
  | true => rfl
  | false => exact perform_change call _

/-- Creating is opening, then owner, then mode. -/
theorem create_eq_steps (r : FileResource) (o : Options) :
    r.create o = (do
      let ids ← observe r.ownerIds
      r.enact o "creando archivo" (·.create r.path)
      r.enact o r.ownerMessage (·.chown r.path ids.1 ids.2)
      r.enact o r.modeMessage (·.chmod r.path r.mode.toNat)) := by
  unfold create enact
  simp only [bind_assoc]

/-- Mending the mode is one step or none. -/
theorem mendMode_eq (r : FileResource) (o : Options) (node : Node) :
    r.mendMode o node = if (r.modeDifference node).isSome then
      r.enact o r.modeMessage (·.chmod r.path r.mode.toNat) else pure () := rfl

/-- Giving a file away is one step, once the numbers of its owners are known. -/
theorem giveAway_eq (r : FileResource) (o : Options) :
    r.giveAway o = (do
      let ids ← observe r.ownerIds
      r.enact o r.ownerMessage (·.chown r.path ids.1 ids.2)) := rfl

/-- Deleting is one step or none. -/
theorem delete_eq (r : FileResource) (o : Options) :
    r.delete o = (do
      let there ← observe fun m => .ok (m.isThere r.path)
      if there then r.enact o "eliminando archivo" (·.remove r.path) else pure ()) := rfl

/-! ## §2. From parts to actions. -/

/-- What is said of actions (`J`) holds of results, and goes through to actions bound together. -/
structure Binds (J : (α : Type) → Act α → Prop) : Prop where
  pure : ∀ {α : Type} (x : α), J α (pure x)
  bind : ∀ {α β : Type} {a : Act α} {f : α → Act β}, J α a → (∀ x, J β (f x)) → J β (a >>= f)

/-- What is said of actions holds of all looks and steps of a resource. -/
structure Covers (r : FileResource) (o : Options) (J : (α : Type) → Act α → Prop) : Prop
    extends Binds J where
  ids : J _ (observe r.ownerIds)
  node : J _ (observe r.regularFile)
  owner : ∀ n, J _ (observe (r.ownerDifference n))
  content : J _ (observe (r.contentDifference o))
  there : J _ (observe fun m => .ok (m.isThere r.path))
  state : J _ (observe (r.evaluate o))
  step : ∀ {message : String} {call : Machine → Except CallFailure Machine},
    r.Announces message call → J _ (r.enact o message call)
  /-- A word about the content is printed, and no step follows. -/
  word : ∀ message, J _ (r.progress o message)

namespace Covers

variable {J : (α : Type) → Act α → Prop}

theorem create (h : r.Covers o J) : J Unit (r.create o) := by
  rw [create_eq_steps]
  refine h.bind h.ids fun ids => ?_
  refine h.bind (h.step .opening) fun _ => ?_
  exact h.bind (h.step (.owner ids.1 ids.2)) fun _ => h.step .mode

theorem update (h : r.Covers o J) : J Unit (r.update o) := by
  rw [update_eq]
  refine h.bind h.node fun node => ?_
  refine h.bind ?mode fun _ => h.bind ?owner fun _ => ?content
  case mode =>
    rw [mendMode_eq]
    split
    · exact h.step .mode
    · exact h.pure ()
  case owner =>
    refine h.bind (h.owner node) fun owner => ?_
    split
    · rw [giveAway_eq]
      exact h.bind h.ids fun ids => h.step (.owner ids.1 ids.2)
    · exact h.pure ()
  case content =>
    refine h.bind h.content fun content => ?_
    cases content with
    | none => exact h.pure ()
    | some d => exact h.word _

theorem delete (h : r.Covers o J) : J Unit (r.delete o) := by
  rw [delete_eq]
  refine h.bind h.there fun there => ?_
  split
  · exact h.step .removal
  · exact h.pure ()

/-- **What holds of looks and steps holds of every action.** -/
theorem act (h : r.Covers o J) (a : Action) : J Unit (r.act o a) := by
  cases a with
  | create => exact h.create
  | delete => exact h.delete
  | update => exact h.update

theorem carryOut (h : r.Covers o J) (st : State) : J State (r.carryOut o st) := by
  unfold FileResource.carryOut
  split
  · exact h.pure st
  · refine h.bind (h.act _) fun _ => ?_
    split
    · exact h.pure st
    · exact h.state

/-- **What holds of looks and steps holds of bringing a resource to its state.** -/
theorem reconcile (h : r.Covers o J) : J State (r.reconcile o) := by
  rw [reconcile_eq]
  exact h.bind h.state fun st => h.carryOut st

end Covers

end Converge.FileResource

namespace Converge.Runner

open Converge.Machine Act FileResource

/-! ## §3. From resources to runs. -/

/-- What is said of actions goes through where a failure is handled. -/
structure Handles (J : (α : Type) → Act α → Prop) : Prop extends Binds J where
  throw : ∀ {α : Type} (f : Failure), J α (throw f)
  tryCatch : ∀ {α : Type} {a : Act α} {handler : Failure → Act α}, J α a →
    (∀ f, J α (handler f)) → J α (tryCatch a handler)
  say : ∀ e, J _ (say e)

namespace Handles

variable {J : (α : Type) → Act α → Prop} {mode : Mode} {o : Options}

theorem runOne (h : Handles J) {r : FileResource} (hstep : J State (step mode o r)) :
    J Outcome (runOne mode o r) := by
  unfold Runner.runOne
  refine h.tryCatch (h.bind hstep fun st => h.pure _) fun f => ?_
  split
  · exact h.bind (h.say _) fun _ => h.pure _
  · exact h.throw f

/-- **What holds of the step on each resource holds of the run over all.** -/
theorem run (h : Handles J) {rs : List FileResource} (hsteps : ∀ r ∈ rs, J State (step mode o r)) :
    J (List Outcome) (run mode o rs) := by
  induction rs with
  | nil => exact h.pure []
  | cons r rest ih =>
    rw [run_cons]
    refine h.bind (h.runOne (hsteps r List.mem_cons_self)) fun outcome => ?_
    -- the outcome is put in front of the outcomes of the rest
    refine h.bind (ih fun r' hr' => hsteps r' (List.mem_cons_of_mem r hr')) fun outcomes => ?_
    exact h.pure _

end Handles

end Converge.Runner

namespace Converge.Act

open Converge.Machine FileResource Runner

/-! ## §4. Actions that leave the machine alone. -/

/-- However the action ends, the machine is as it was. -/
def Still {α : Type} (a : Act α) : Prop := ∀ s, (perform a s).2.machine = s.machine

namespace Still

variable {α β : Type}

theorem pure (x : α) : Still (pure x) := fun _ => rfl

theorem observe (f : Machine → Except Failure α) : Still (observe f) := by
  intro s
  rw [perform_observe]

theorem bind {a : Act α} {f : α → Act β} (ha : Still a) (hf : ∀ x, Still (f x)) :
    Still (a >>= f) := by
  intro s
  have hfirst := ha s
  rw [perform_bind]
  match hp : perform a s with
  | (.ok x, s₁) =>
    rw [hp] at hfirst
    exact (hf x s₁).trans hfirst
  | (.error e, s₁) =>
    rw [hp] at hfirst
    exact hfirst

theorem tryCatch {a : Act α} {handler : Failure → Act α} (ha : Still a)
    (hh : ∀ f, Still (handler f)) : Still (tryCatch a handler) := by
  intro s
  have hfirst := ha s
  rw [perform_tryCatch]
  match hp : perform a s with
  | (.ok x, s₁) =>
    rw [hp] at hfirst
    exact hfirst
  | (.error e, s₁) =>
    rw [hp] at hfirst
    exact (hh e s₁).trans hfirst

theorem say (e : Entry) : Still (say e) := fun _ => rfl

theorem handles : Handles fun _ => Still where
  pure := pure
  bind := bind
  throw _ _ := rfl
  tryCatch := tryCatch
  say := say

/-- In a dry run no step is taken. -/
theorem covers (r : FileResource) {o : Options} (hdry : o.dryRun = true) :
    r.Covers o fun _ => Still where
  toBinds := handles.toBinds
  ids := observe _
  node := observe _
  owner _ := observe _
  content := observe _
  there := observe _
  state := observe _
  step _ := by
    refine bind (say _) fun _ => ?_
    unfold take
    rw [if_pos hdry]
    exact pure ()
  word _ := say _

end Still

/-! ## §5. Actions on machines that are alike. -/

namespace Twin

variable {R : Machine → Machine → Prop}

theorem handles : Handles fun _ => Twin R where
  pure := pure
  bind := bind
  throw := throw
  tryCatch := tryCatch
  say := say

/-- A step whose call goes alike. -/
theorem enact {r : FileResource} {o : Options} {message : String}
    {call : Machine → Except CallFailure Machine}
    (h : ∀ m m', R m m' → Calls R (call m) (call m')) : Twin R (r.enact o message call) := by
  refine bind (say _) fun _ => ?_
  unfold take
  split
  · exact pure ()
  · exact change h

/-- On one and the same machine every call goes alike. -/
theorem calls_self (x : Except CallFailure Machine) : Calls (· = ·) x x := by
  cases x with
  | ok m => exact rfl
  | error e => exact rfl

theorem observe_self {α : Type} (f : Machine → Except Failure α) : Twin (· = ·) (Act.observe f) :=
  observe fun _ _ h => by rw [h]

/-- **What an action does and says on a machine does not depend on what was said before.** -/
theorem covers_self (r : FileResource) (o : Options) : r.Covers o fun _ => Twin (· = ·) where
  toBinds := handles.toBinds
  ids := observe_self _
  node := observe_self _
  owner _ := observe_self _
  content := observe_self _
  there := observe_self _
  state := observe_self _
  step _ := by
    refine enact ?_
    intro m m' h
    rw [h]
    exact calls_self _
  word _ := say _

end Twin

end Converge.Act
