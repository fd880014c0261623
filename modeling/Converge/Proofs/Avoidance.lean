/-
  Converge.Proofs.Avoidance
  ─────────────────────────
  **CALLS THAT ARE NOT MADE.**

  A call that is made can be made to fail.  So an action that ends alike, prints the same and leaves
  the same disk however the calls of one kind are made to fail makes none of them.  Looks do not depend
  on faults of calls that change the disk, and a call does not depend on faults of other calls.

  Main results:
    * `Avoids.bind`, `Avoids.enact` — how actions are put together that make no call of a kind;
    * `evaluate_failing` — a comparison makes no call that changes the disk.
-/
import Converge.Proofs.Anatomy
import Converge.Proofs.Calm

namespace Converge.Machine

/-! ## §1. Machines where more calls fail. -/

/-- The machine where more calls fail. -/
def failing (m : Machine) (fs : List Fault) : Machine := m.under (fs ++ m.faults)

/-- Whether a call changes the disk. -/
def Call.changes : Call → Bool
  | .create | .chmod | .chown | .remove => true
  | .stat | .lstat | .read => false

variable {m : Machine} {fs : List Fault} {c d : Call}

/-- None of the faults meets a call on a path. -/
def Misses (fs : List Fault) (c : Call) (path : String) : Prop :=
  ∀ f ∈ fs, f.call = c → f.path ≠ path

/-- Faults of one kind of call do not meet another. -/
theorem misses_other (h : ∀ f ∈ fs, f.call = c) (hne : d ≠ c) (path : String) : Misses fs d path :=
  fun f hf heq => (hne (heq.symm.trans (h f hf))).elim

/-- Faults of calls that change the disk do not meet a look. -/
theorem misses_look (hc : c.changes = true) (h : ∀ f ∈ fs, f.call = c) (hd : d.changes = false)
    (path : String) : Misses fs d path := by
  refine misses_other h ?_ path
  rintro rfl
  rw [hc] at hd
  cases hd

section Missed

variable {path : String}

theorem faultFor?_failing (h : Misses fs d path) :
    (m.failing fs).faultFor? d path = m.faultFor? d path := by
  have hnone : fs.find? (fun f => f.call == d && f.path == path) = none := by
    rw [List.find?_eq_none]
    intro f hf hmeets
    simp only [Bool.and_eq_true, beq_iff_eq] at hmeets
    exact h f hf hmeets.1 hmeets.2
  unfold faultFor? failing under
  rw [List.find?_append, hnone, Option.none_or]

theorem precheck_failing (h : Misses fs d path) :
    (m.failing fs).precheck d path = m.precheck d path := by
  unfold precheck
  rw [faultFor?_failing h]

theorem existing_failing (h : Misses fs d path) (follow : Bool) :
    (m.failing fs).existing d path follow = m.existing d path follow := by
  unfold existing
  rw [precheck_failing h]
  rfl

end Missed

theorem create_failing (h : ∀ f ∈ fs, f.call = c) (hne : .create ≠ c) (path : String) :
    (m.failing fs).create path = (m.create path).map (·.failing fs) := by
  unfold create
  rw [precheck_failing (misses_other h hne path),
    show (m.failing fs).parentOf path = m.parentOf path from rfl,
    show (m.failing fs).walkFrom path true (steps path) = m.walkFrom path true (steps path) from rfl]
  cases m.precheck .create path with
  | error e => rfl
  | ok u =>
    -- what is left looks at the disk alone, which is the same
    simp only [bind, Except.bind]
    repeat' split
    all_goals rfl

theorem chmod_failing (h : ∀ f ∈ fs, f.call = c) (hne : .chmod ≠ c) (path : String) (mode : Nat) :
    (m.failing fs).chmod path mode = (m.chmod path mode).map (·.failing fs) := by
  unfold chmod
  rw [existing_failing (misses_other h hne path)]
  cases m.existing .chmod path true <;> rfl

theorem chown_failing (h : ∀ f ∈ fs, f.call = c) (hne : .chown ≠ c) (path : String) (uid gid : Int) :
    (m.failing fs).chown path uid gid = (m.chown path uid gid).map (·.failing fs) := by
  unfold chown
  rw [existing_failing (misses_other h hne path)]
  cases m.existing .chown path true <;> rfl

theorem remove_failing (h : ∀ f ∈ fs, f.call = c) (hne : .remove ≠ c) (path : String) :
    (m.failing fs).remove path = (m.remove path).map (·.failing fs) := by
  unfold remove
  rw [precheck_failing (misses_other h hne path),
    show (m.failing fs).parentOf path = m.parentOf path from rfl,
    show (m.failing fs).disk = m.disk from rfl]
  cases m.precheck .remove path with
  | error e => rfl
  | ok u =>
    cases (namesOf path).getLast? with
    | none => rfl
    | some name =>
      cases m.parentOf path with
      | error e => rfl
      | ok parent =>
        -- what is left looks at the disk alone, which is the same
        simp only [bind, Except.bind]
        repeat' split
        all_goals rfl

end Converge.Machine

namespace Converge.Act

open Converge.Machine FileResource

variable {α β : Type} {c : Call} {s s' : Session}

/-! ## §2. Actions. -/

/-- However calls of a kind are made to fail, the action ends alike, prints the same and leaves the same
    disk: it makes no call of that kind. -/
def Avoids (c : Call) (a : Act α) (s : Session) : Prop :=
  ∀ fs : List Fault, (∀ f ∈ fs, f.call = c) →
    perform a { s with machine := s.machine.failing fs } =
      ((perform a s).1, { (perform a s).2 with machine := (perform a s).2.machine.failing fs })

namespace Avoids

theorem pure (x : α) : Avoids c (pure x) s := fun _ _ => rfl

theorem say (e : Entry) : Avoids c (say e) s := fun _ _ => rfl

/-- A look that sees the same. -/
theorem observe {f : Machine → Except Failure α}
    (h : ∀ fs : List Fault, (∀ g ∈ fs, g.call = c) → f (s.machine.failing fs) = f s.machine) :
    Avoids c (observe f) s := by
  intro fs hfs
  rw [perform_observe, perform_observe, h fs hfs]

/-- A call that goes alike. -/
theorem change {f : Machine → Except CallFailure Machine}
    (h : ∀ fs : List Fault, (∀ g ∈ fs, g.call = c) →
      f (s.machine.failing fs) = (f s.machine).map (·.failing fs)) :
    Avoids c (change f) s := by
  intro fs hfs
  rw [perform_change, perform_change, h fs hfs]
  cases f s.machine <;> rfl

/-- The second action need only avoid the call where the first one ends well. -/
theorem bind {a : Act α} {f : α → Act β} (ha : Avoids c a s)
    (hf : ∀ x s₁, perform a s = (.ok x, s₁) → Avoids c (f x) s₁) : Avoids c (a >>= f) s := by
  intro fs hfs
  rw [perform_bind, perform_bind, ha fs hfs]
  match hp : perform a s with
  | (.error e, s₁) => rfl
  | (.ok x, s₁) => exact hf x s₁ hp fs hfs -- on the same faults, from where the first one ended

theorem enact {r : FileResource} {o : Options} {message : String}
    {call : Machine → Except CallFailure Machine}
    (h : ∀ fs : List Fault, (∀ g ∈ fs, g.call = c) →
      call (s.machine.failing fs) = (call s.machine).map (·.failing fs)) :
    Avoids c (r.enact o message call) s := by
  refine bind (say _) ?_
  intro u s₁ hp
  -- printing the step has left the machine as it was
  have hmachine := machine_of_progress (o := o) hp
  unfold take
  split
  · exact pure ()
  · refine change ?_
    rw [hmachine]
    exact h

end Avoids

end Converge.Act

namespace Converge.FileResource

open Converge.Machine Act

variable {r : FileResource} {o : Options} {m : Machine} {fs : List Fault} {c : Call} {s : Session}

/-! ## §3. Looks. -/

section Missed

variable {path : String}

theorem stat_failing (h : Misses fs .stat path) : (m.failing fs).stat path = m.stat path := by
  unfold Machine.stat
  rw [existing_failing h]

theorem read_failing (h : Misses fs .read path) : (m.failing fs).read path = m.read path := by
  unfold Machine.read
  rw [existing_failing h]

theorem isThere_failing (h : Misses fs .lstat path) :
    (m.failing fs).isThere path = m.isThere path := by
  unfold isThere lstat
  rw [existing_failing h]

end Missed

/-- None of the faults meets a look that is taken for a resource. -/
structure Unseen (r : FileResource) (o : Options) (fs : List Fault) : Prop where
  stat : Misses fs .stat r.path
  lstat : Misses fs .lstat r.path
  file : Misses fs .read (Path.ofString r.path).toString
  source : ∀ p, r.sourcePath o = .ok (some p) → Misses fs .read p.toString

namespace Unseen

theorem contentDifference (h : r.Unseen o fs) :
    r.contentDifference o (m.failing fs) = r.contentDifference o m := by
  unfold FileResource.contentDifference Checksum.contentChanged Checksum.ofFile
  match hsource : r.sourcePath o with
  | .error e => rfl
  | .ok none => rfl
  | .ok (some p) =>
    simp only [bind, Except.bind]
    rw [read_failing (h.source p hsource), read_failing h.file]

theorem regularFile (h : r.Unseen o fs) : r.regularFile (m.failing fs) = r.regularFile m := by
  unfold FileResource.regularFile
  rw [stat_failing h.stat]

theorem evaluate (h : r.Unseen o fs) : r.evaluate o (m.failing fs) = r.evaluate o m := by
  unfold FileResource.evaluate
  rw [stat_failing h.stat, h.contentDifference]
  rfl

end Unseen

theorem unseen_of_changes (r : FileResource) (o : Options) (hc : c.changes = true)
    (h : ∀ f ∈ fs, f.call = c) : r.Unseen o fs where
  stat := misses_look hc h rfl _
  lstat := misses_look hc h rfl _
  file := misses_look hc h rfl _
  source _ _ := misses_look hc h rfl _

/-- **A comparison makes no call that changes the disk.** -/
theorem evaluate_failing (hc : c.changes = true) (h : ∀ f ∈ fs, f.call = c) :
    r.evaluate o (m.failing fs) = r.evaluate o m :=
  (unseen_of_changes r o hc h).evaluate

/-! ## §4. Parts of actions. -/

theorem avoids_mendMode (hne : .chmod ≠ c) (n : Node) : Avoids c (r.mendMode o n) s := by
  rw [mendMode_eq]
  split
  · exact .enact fun fs h => chmod_failing h hne _ _
  · exact .pure ()

theorem avoids_noteContent (hc : c.changes = true) : Avoids c (r.noteContent o) s := by
  refine .bind (.observe fun fs h => (unseen_of_changes r o hc h).contentDifference) ?_
  intro content s₁ _
  cases content with
  | none => exact .pure ()
  | some d => exact .say _

theorem avoids_delete (hc : c.changes = true) (hne : .remove ≠ c) : Avoids c (r.delete o) s := by
  rw [delete_eq]
  refine .bind (.observe fun fs h => by rw [isThere_failing (misses_look hc h rfl _)]) ?_
  intro there s₁ _
  split
  · exact .enact fun fs h => remove_failing h hne _
  · exact .pure ()

end Converge.FileResource
