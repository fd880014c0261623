/-
  Converge.Proofs.Truth
  ─────────────────────
  **A STATE THAT IS REPORTED HOLDS.**

  There are four ways to a state: nothing is called for; a dry run stops after it has printed a
  creation, a deletion or a mending; a file is compared again after one of these; or it is only looked
  at.  A dry run has changed nothing and the last look has changed nothing, so whichever way it was,
  the state is the one that a comparison finds on the machine that is left behind.

  Main results:
    * `evaluate_of_reconcile` — for one resource, whatever faults there are;
    * `reported_states_hold` — and for each resource of a run, right after its turn.
-/
import Converge.Proofs.Containment
import Converge.Proofs.Recovery

namespace Converge.FileResource

open Converge.Machine Act

variable {r : FileResource} {o : Options} {s s' : Session} {st : State}

/-! ## §1. One resource. -/

/-- Whatever a first comparison leads to, it ends with a state that holds. -/
theorem evaluate_of_carryOut {first : State} (hfirst : r.evaluate o s.machine = .ok first)
    (h : perform (r.carryOut o first) s = (.ok st, s')) : r.evaluate o s'.machine = .ok st := by
  unfold carryOut at h
  cases ha : first.action? with
  | none =>
    rw [ha, perform_pure] at h
    cases h
    exact hfirst
  | some a =>
    rw [ha] at h
    obtain ⟨u, s₁, hact, hlast⟩ := perform_bind_ok h
    by_cases hdry : o.dryRun = true
    · -- the first state is the answer, and no action of a dry run touches the machine
      have hstill : s₁.machine = s.machine := by
        have hmachine := (Still.covers r hdry).act a s
        rw [hact] at hmachine
        exact hmachine
      rw [if_pos hdry, perform_pure] at hlast
      cases hlast
      rw [hstill]
      exact hfirst
    · -- the answer comes from a look at the machine that is left
      rw [if_neg hdry, perform_observe, Prod.mk.injEq] at hlast
      obtain ⟨heval, rfl⟩ := hlast
      exact heval

/-- **The state in which a resource is said to be is the one that a comparison finds.** -/
theorem evaluate_of_reconcile (h : perform (r.reconcile o) s = (.ok st, s')) :
    r.evaluate o s'.machine = .ok st := by
  rw [reconcile_eq] at h
  obtain ⟨first, s₁, hlook, hrest⟩ := perform_bind_ok h
  rw [perform_observe, Prod.mk.injEq] at hlook
  obtain ⟨hfirst, rfl⟩ := hlook
  exact evaluate_of_carryOut hfirst hrest

end Converge.FileResource

namespace Converge.Runner

open Converge.Machine Act FileResource

variable {mode : Mode} {o : Options} {r : FileResource} {s s' : Session}

/-! ## §2. Runs. -/

/-- Unless it tells of a failure, an outcome has the state that a comparison finds on the machine. -/
def HoldsOn (o : Options) (m : Machine) (outcome : Outcome) : Prop :=
  outcome.ok = true → ∃ st, outcome.state = some st ∧ outcome.resource.evaluate o m = .ok st

theorem evaluate_of_step {st : State} (h : perform (step mode o r) s = (.ok st, s')) :
    r.evaluate o s'.machine = .ok st := by
  cases mode with
  | apply => exact evaluate_of_reconcile h
  | plan =>
    unfold step at h
    rw [perform_observe, Prod.mk.injEq] at h
    obtain ⟨heval, rfl⟩ := h
    exact heval

/-- The outcome of a resource holds when its turn is over. -/
theorem holdsOn_of_runOne {outcome : Outcome} (h : perform (runOne mode o r) s = (.ok outcome, s')) :
    outcome.resource = r ∧ HoldsOn o s'.machine outcome := by
  rw [perform_runOne] at h
  match hstep : perform (step mode o r) s with
  | (.ok st, s₁) =>
    rw [hstep] at h
    cases h
    exact ⟨rfl, fun _ => ⟨st, rfl, evaluate_of_step hstep⟩⟩
  | (.error f, s₁) =>
    rw [hstep] at h
    dsimp only at h
    split at h
    · -- a failure that is noted claims nothing about the machine
      cases h
      exact ⟨rfl, fun hok => by cases hok⟩
    · cases h

/-- The outcomes of a run are about its resources, and each holds on the machine right after the turn
    of its resource. -/
theorem run_holds (rs : List FileResource) : ∀ {s s' : Session} {outcomes : List Outcome},
    perform (run mode o rs) s = (.ok outcomes, s') → outcomes.length = rs.length ∧
      ∀ i r, rs[i]? = some r → ∃ outcome, outcomes[i]? = some outcome ∧ outcome.resource = r ∧
        HoldsOn o (machineAfter mode o (rs.take (i + 1)) s) outcome := by
  induction rs with
  | nil =>
    intro s s' outcomes h
    rw [run_nil, perform_pure] at h
    cases h
    refine ⟨rfl, ?_⟩
    intro i r hr
    simp at hr
  | cons r rest ih =>
    intro s s' outcomes h
    rw [run_cons] at h
    obtain ⟨outcome, s₁, hone, h⟩ := perform_bind_ok h
    obtain ⟨outcomes', s₂, hrest, h⟩ := perform_bind_ok h
    rw [perform_pure] at h
    cases h
    obtain ⟨hlength, hall⟩ := ih hrest
    refine ⟨by rw [List.length_cons, List.length_cons, hlength], ?_⟩
    intro i r' hr'
    -- the machine after a prefix is the machine after its rest, from where the first turn ended
    rw [List.take_succ_cons, machineAfter_cons (rest.take i) hone]
    cases i with
    | zero =>
      rw [List.getElem?_cons_zero, Option.some.injEq] at hr'
      subst hr'
      obtain ⟨hresource, hholds⟩ := holdsOn_of_runOne hone
      exact ⟨outcome, rfl, hresource, hholds⟩
    | succ i =>
      rw [List.getElem?_cons_succ] at hr'
      exact hall i r' hr'

/-- **A state that is reported holds.**  When bringing a resource to its state ends in one, comparing
    the resource on the machine that is left behind gives the same; and when a run ends, so does
    comparing each resource that did not fail on the machine right after its turn. -/
theorem reported_states_hold (o : Options) :
    (∀ (r : FileResource) (s s' : Session) (st : State),
      perform (r.reconcile o) s = (.ok st, s') → r.evaluate o s'.machine = .ok st) ∧
    ∀ (mode : Mode) (rs : List FileResource) (s s' : Session) (outcomes : List Outcome),
      perform (run mode o rs) s = (.ok outcomes, s') → outcomes.length = rs.length ∧
      ∀ (i : Nat) (r : FileResource), rs[i]? = some r → ∃ outcome, outcomes[i]? = some outcome ∧
        outcome.resource = r ∧ (outcome.ok = true → ∃ st, outcome.state = some st ∧
          r.evaluate o (machineAfter mode o (rs.take (i + 1)) s) = .ok st) := by
  refine ⟨fun r s s' st h => evaluate_of_reconcile h, ?_⟩
  intro mode rs s s' outcomes h
  obtain ⟨hlength, hall⟩ := run_holds rs h
  refine ⟨hlength, ?_⟩
  intro i r hr
  obtain ⟨outcome, hat, hresource, hholds⟩ := hall i r hr
  subst hresource
  exact ⟨outcome, hat, rfl, hholds⟩

/-- A message of the day is created, and its outcome holds. -/
theorem motd_reported : ∃ st s₁ outcome,
    perform (motd.reconcile {}) ⟨bare, []⟩ = (.ok st, s₁) ∧
    perform (run .apply {} [motd]) ⟨bare, []⟩ = (.ok [outcome], s₁) ∧ outcome.ok = true ∧
    outcome.state = some st ∧ motd.evaluate {} s₁.machine = .ok st ∧
    motd.evaluate {} (machineAfter .apply {} [motd] ⟨bare, []⟩) = .ok st := by
  have hfree : bare.arrive motd.path = .ok (.vacant [] "motd") :=
    arrive_bare (by decide) (by decide) (by decide) (by decide) (by decide)
  obtain ⟨st, s₁, hmade, -⟩ := (triple_pass_free (o := {}) ⟨rfl, rfl, rfl, rfl⟩ rfl (by decide)
    ⟨by decide, by decide, by decide⟩ rfl rfl (by decide)).ok (s := ⟨bare, []⟩)
    ⟨rfl, rfl, [], "motd", hfree⟩
  have hrun : perform (run .apply {} [motd]) ⟨bare, []⟩ = (.ok [success motd st], s₁) := by
    rw [run_singleton, perform_bind, perform_runOne]
    unfold step
    dsimp only
    rw [hmade]
    rfl
  obtain ⟨hone, hall⟩ := reported_states_hold {}
  obtain ⟨-, hrow⟩ := hall .apply [motd] ⟨bare, []⟩ s₁ [success motd st] hrun
  obtain ⟨outcome, hat, -, hholds⟩ := hrow 0 motd rfl
  cases hat
  obtain ⟨st', hstate, heval⟩ := hholds rfl
  cases hstate
  exact ⟨st, s₁, success motd st, hmade, hrun, rfl, rfl, hone motd _ s₁ st hmade, heval⟩

end Converge.Runner
