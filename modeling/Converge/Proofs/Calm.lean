/-
  Converge.Proofs.Calm
  ────────────────────
  **A FILE WORKED ON WITHOUT FAULTS.**

  Where no fault meets a call and the path leads to a file, what a comparison says is told by the
  attributes of that file, and by the tables that give names to its owner and group.

  Main results:
    * `ownerDifference_ok_iff` — when owners can be compared;
    * `evaluate_stands` — what a comparison says about a file.
-/
import Converge.Proofs.Steps

namespace Converge.Machine

/-! ## §1. Where a file stands. -/

/-- The machine under given faults. -/
def under (m : Machine) (faults : List Fault) : Machine := { m with faults := faults }

/-- No fault meets a call, the accounts are `a`, and the path leads to the file `n`. -/
structure Stands (a : Accounts) (path : String) (n : Node) (m : Machine) : Prop where
  calm : m.faults = []
  accounts : m.accounts = a
  leads : ∃ place, m.arrive path = .ok (.present place n)
  file : n.isFile = true

theorem precheck_of_calm {m : Machine} (hm : m.faults = []) {path : String} (hfit : Fit path)
    (call : Call) : m.precheck call path = .ok () :=
  precheck_ok_iff.mpr ⟨faultFor?_of_nil hm call path, hfit⟩

/-- A path that passes the checks of one call is fit for all. -/
theorem fit_of_precheck {m : Machine} {path : String} {call : Call}
    (h : m.precheck call path = .ok ()) : Fit path :=
  (precheck_ok_iff.mp h).2

/-- A path with a status has an entry, be it a link. -/
theorem isThere_of_stat {m : Machine} (hm : m.faults = []) {path : String} {n : Node}
    (h : m.stat path = .ok n) : m.isThere path = true := by
  obtain ⟨hcheck, place, ha⟩ := stat_ok_iff.mp h
  obtain ⟨p', n', hwalk⟩ := walk_nofollow m.disk _ _ _ _ _ ha
  unfold isThere lstat existing walkFrom
  rw [precheck_of_calm hm (fit_of_precheck hcheck) .lstat, hwalk]
  rfl

namespace Stands

variable {a : Accounts} {path : String} {n : Node} {m : Machine}

theorem stat (h : Stands a path n m) (hfit : Fit path) : m.stat path = .ok n :=
  stat_ok_iff.mpr ⟨precheck_of_calm h.calm hfit .stat, h.leads⟩

/-- A file put where the path leads stands there. -/
theorem put (h : Stands a path n m) {place : Place} (ha : m.arrive path = .ok (.present place n))
    {file : Node} (hfile : file.isFile = true) : Stands a path file (m.put place file) where
  calm := h.calm
  accounts := h.accounts
  leads := ⟨place, arrive_put ha h.file hfile⟩
  file := hfile

end Stands

end Converge.Machine

namespace Converge.FileResource

open Converge.Machine Act

/-! ## §2. Names of owners. -/

/-- The declared names have numbers, and the numbers have those names. -/
structure Canonical (r : FileResource) (a : Accounts) (uid gid : Int) : Prop where
  user : a.userId r.owner = .ok uid
  group : a.groupId r.group = .ok gid
  userBack : a.userName uid = .ok r.owner
  groupBack : a.groupName gid = .ok r.group

/-- A node's owner and group have names. -/
def Named (a : Accounts) (n : Node) : Prop := ∃ user group, fileOwner a n = .ok (user, group)

/-- A node's owner and group have the declared names. -/
def Owned (r : FileResource) (a : Accounts) (n : Node) : Prop :=
  fileOwner a n = .ok (r.owner, r.group)

theorem fileOwner_congr {a : Accounts} {n n' : Node} (huid : n'.uid = n.uid) (hgid : n'.gid = n.gid) :
    fileOwner a n' = fileOwner a n := by
  unfold fileOwner
  rw [huid, hgid]

theorem fileOwner_of_names {a : Accounts} {n : Node} {user group : String}
    (hu : a.userName n.uid = .ok user) (hg : a.groupName n.gid = .ok group) :
    fileOwner a n = .ok (user, group) := by
  unfold fileOwner
  rw [hu, hg]
  rfl

theorem names_of_fileOwner {a : Accounts} {n : Node} {user group : String}
    (h : fileOwner a n = .ok (user, group)) :
    a.userName n.uid = .ok user ∧ a.groupName n.gid = .ok group := by
  unfold fileOwner at h
  cases hu : a.userName n.uid with
  | error e => simp [hu, bind, Except.bind] at h
  | ok user' =>
    cases hg : a.groupName n.gid with
    | error e => simp [hu, hg, bind, Except.bind] at h
    | ok group' =>
      rw [hu, hg] at h
      cases h
      exact ⟨rfl, rfl⟩

section Comparing

variable {r : FileResource} {a : Accounts} {uid gid : Int} {m : Machine} {n : Node}

theorem Canonical.ownerIds (h : r.Canonical a uid gid) (hm : m.accounts = a) :
    r.ownerIds m = .ok (uid, gid) := by
  unfold FileResource.ownerIds
  rw [hm, h.user, h.group]
  rfl

/-- What was given to the declared owner is owned. -/
theorem Canonical.owned (h : r.Canonical a uid gid) (n : Node) : r.Owned a (n.giveTo uid gid) :=
  fileOwner_of_names h.userBack h.groupBack

theorem ownerIds_ok_iff {uid gid : Int} : r.ownerIds m = .ok (uid, gid) ↔
    m.accounts.userId r.owner = .ok uid ∧ m.accounts.groupId r.group = .ok gid := by
  unfold ownerIds
  cases m.accounts.userId r.owner with
  | error e => simp [bind, Except.bind]
  | ok u => cases m.accounts.groupId r.group <;> simp [bind, Except.bind, pure, Except.pure]

/-- **Owners can be compared exactly where the declared names have numbers and the numbers that were
    found have names.** -/
theorem ownerDifference_ok_iff : (∃ gap, r.ownerDifference n m = .ok gap) ↔
    (∃ ids, r.ownerIds m = .ok ids) ∧ Named m.accounts n := by
  unfold ownerDifference ownerChanged ownerIds Named
  cases m.accounts.userId r.owner with
  | error e => simp [bind, Except.bind]
  | ok uid =>
    cases m.accounts.groupId r.group with
    | error e => simp [bind, Except.bind]
    | ok gid =>
      cases fileOwner m.accounts n with
      | error e => simp [bind, Except.bind]
      | ok names =>
        obtain ⟨user, group⟩ := names
        by_cases hc : (user != r.owner || group != r.group) = true <;>
          simp [bind, Except.bind, pure, Except.pure, hc]

/-- **The comparison of owners** finds no difference exactly where the declared names are found. -/
theorem ownerDifference_named (h : r.Canonical a uid gid) (hm : m.accounts = a) (hn : Named a n) :
    ∃ gap, r.ownerDifference n m = .ok gap ∧ (gap = none ↔ r.Owned a n) := by
  subst hm
  obtain ⟨user, group, hf⟩ := hn
  unfold ownerDifference ownerChanged Owned
  rw [h.user, h.group, hf]
  simp only [bind, Except.bind, pure, Except.pure]
  by_cases hc : (user != r.owner || group != r.group) = true
  · rw [if_pos hc]
    refine ⟨_, rfl, ?_⟩
    simp only [reduceCtorEq, false_iff, Except.ok.injEq, Prod.mk.injEq]
    simp only [bne, Bool.or_eq_true, Bool.not_eq_true', beq_eq_false_iff_ne] at hc
    intro hsame
    obtain ⟨rfl, rfl⟩ := hsame
    simp at hc
  · rw [if_neg hc]
    refine ⟨none, rfl, ?_⟩
    simp only [true_iff, Except.ok.injEq, Prod.mk.injEq]
    simpa using hc

/-- The comparison of modes finds no difference exactly where the declared mode is found. -/
theorem modeDifference_eq_none : r.modeDifference n = none ↔ (n.permissions : Int) = r.mode := by
  unfold modeDifference permissionsChanged
  by_cases h : (n.permissions : Int) = r.mode
  · simp [h]
  · simp [h]

/-- A mode in range is found as it was set. -/
theorem permissions_set (hmode : 0 ≤ r.mode ∧ r.mode ≤ Field.maxMode) (n : Node) :
    (({ n with mode := r.mode.toNat % 0o10000 } : Node).permissions : Int) = r.mode := by
  unfold Node.permissions
  obtain ⟨hlow, hhigh⟩ := hmode
  unfold Field.maxMode at hhigh
  dsimp only
  omega

/-- An empty source is none. -/
theorem sourcePath_none (hsource : r.source.getD "" = "") (o : Options) :
    r.sourcePath o = .ok none := by
  unfold sourcePath
  cases hs : r.source with
  | none => rfl
  | some source =>
    rw [hs, Option.getD_some] at hsource
    simp [hsource]

theorem contentDifference_none (hsource : r.source.getD "" = "") (o : Options) (m : Machine) :
    r.contentDifference o m = .ok none := by
  unfold contentDifference
  rw [sourcePath_none hsource]
  rfl

/-- A file whose owners can be compared is judged by its content last. -/
theorem evaluate_of_ownerDifference {o : Options} {gap : Option Difference} (hstat : m.stat r.path = .ok n)
    (hfile : n.isFile = true) (hgap : r.ownerDifference n m = .ok gap) :
    r.evaluate o m = (r.contentDifference o m).map fun content =>
      .ofPresent r.want ((r.modeDifference n).toList ++ gap.toList ++ content.toList) := by
  unfold evaluate
  rw [hstat]
  simp only [hfile, Bool.not_true, Bool.false_eq_true, if_false]
  rw [hgap]
  cases r.contentDifference o m <;> rfl

/-- Without a source a comparison of a file is one of mode and owner. -/
theorem evaluate_of_owner {gap : Option Difference} (hsource : r.source.getD "" = "")
    (hstat : m.stat r.path = .ok n) (hfile : n.isFile = true)
    (hgap : r.ownerDifference n m = .ok gap) (o : Options) :
    r.evaluate o m = .ok (.ofPresent r.want ((r.modeDifference n).toList ++ gap.toList)) := by
  rw [evaluate_of_ownerDifference hstat hfile hgap, contentDifference_none hsource]
  show Except.ok (State.ofPresent r.want (_ ++ _ ++ [])) = _
  rw [List.append_nil]

/-- **What a comparison says about a file** whose owners have names. -/
theorem evaluate_stands (h : r.Canonical a uid gid) (hsource : r.source.getD "" = "")
    (hfit : Fit r.path) (hm : Stands a r.path n m) (hn : Named a n) (o : Options) :
    ∃ gap, r.ownerDifference n m = .ok gap ∧ (gap = none ↔ r.Owned a n) ∧
      r.evaluate o m = .ok (.ofPresent r.want ((r.modeDifference n).toList ++ gap.toList)) := by
  obtain ⟨gap, hgap, hiff⟩ := ownerDifference_named h hm.accounts hn
  exact ⟨gap, hgap, hiff, evaluate_of_owner hsource (hm.stat hfit) hm.file hgap o⟩

end Comparing

/-! ## §3. Steps that succeed. -/

/-- A step that is known to succeed. -/
theorem triple_take_ok {o : Options} (hdry : o.dryRun = false) {P Q : Machine → Prop}
    {E : Failure → Machine → Prop} {f : Machine → Except CallFailure Machine}
    (h : ∀ m, P m → ∃ m', f m = .ok m' ∧ Q m') : Triple P (take o f) (fun _ => Q) E := by
  unfold take
  rw [hdry]
  exact Triple.change_ok h

/-! ## §4. A file to try things on. -/

/-- A message of the day with a set-user-id bit, which a change of owner takes away. -/
def motd : FileResource where
  title := "/motd"
  path := "/motd"
  mode := 0o4755
  owner := "root"
  group := "root"

end Converge.FileResource
