/-
  Converge.Proofs.Comparison
  ──────────────────────────
  **WHEN A FILE CAN BE COMPARED.**

  A comparison looks at everything whatever is wanted: the file must be there, the declared owner and
  group must have numbers, the numbers found on the file must have names, and a declared source must be
  readable.  Mending a file that could be compared leaves one that can be.

  Main results:
    * `evaluate_ok_iff` — when a comparison of a file gives a state;
    * `keeps_comparable` — the calls on a file that should be present keep it comparable.
-/
import Converge.Proofs.Calm
import Converge.Proofs.Retouch

namespace Converge.Machine

/-! ## §1. Numbers that names have given. -/

/-- Where one row matches, a first one does. -/
theorem find?_of_match {α : Type} {rows : List α} {p q : α → Bool} {row : α}
    (h : rows.find? p = some row) (hrow : q row = true) : ∃ first, rows.find? q = some first :=
  Option.isSome_iff_exists.mp (List.find?_isSome.mpr ⟨row, List.mem_of_find?_eq_some h, hrow⟩)

/-- The row that was found by name answers for its number, unless an earlier one does. -/
theorem userName_of_userId {a : Accounts} {name : String} {uid : Int}
    (h : a.userId name = .ok uid) : ∃ back, a.userName uid = .ok back := by
  unfold Accounts.userId Accounts.userNamed? at h
  cases hnul : hasNul name with
  | true => simp [hnul] at h
  | false =>
    cases hrow : a.users.find? (·.name == name) with
    | none => simp [hnul, hrow] at h
    | some row =>
      simp only [hnul, hrow, Bool.false_eq_true, if_false, Except.ok.injEq] at h
      obtain ⟨first, hfirst⟩ := find?_of_match (q := fun u => u.uid == uid) hrow (by simp [h])
      refine ⟨first.name, ?_⟩
      unfold Accounts.userName Accounts.userNumbered?
      rw [hfirst]

theorem groupName_of_groupId {a : Accounts} {name : String} {gid : Int}
    (h : a.groupId name = .ok gid) : ∃ back, a.groupName gid = .ok back := by
  unfold Accounts.groupId Accounts.groupNamed? at h
  cases hnul : hasNul name with
  | true => simp [hnul] at h
  | false =>
    cases hrow : a.groups.find? (·.name == name) with
    | none => simp [hnul, hrow] at h
    | some row =>
      simp only [hnul, hrow, Bool.false_eq_true, if_false, Except.ok.injEq] at h
      obtain ⟨first, hfirst⟩ := find?_of_match (q := fun g => g.gid == gid) hrow (by simp [h])
      refine ⟨first.name, ?_⟩
      unfold Accounts.groupName Accounts.groupNumbered?
      rw [hfirst]

end Converge.Machine

namespace Converge.FileResource

open Converge.Machine Act

variable {r : FileResource} {o : Options} {m : Machine} {n : Node}

/-- What was given to the declared owner has owners with names. -/
theorem named_giveTo {uid gid : Int} (h : r.ownerIds m = .ok (uid, gid)) (n : Node) :
    Named m.accounts (n.giveTo uid gid) := by
  obtain ⟨huser, hgroup⟩ := ownerIds_ok_iff.mp h
  obtain ⟨user, hu⟩ := userName_of_userId huser
  obtain ⟨group, hg⟩ := groupName_of_groupId hgroup
  exact ⟨user, group, fileOwner_of_names hu hg⟩

/-! ## §2. Comparing a file. -/

/-- The path leads to a file, and everything that is declared of it can be compared. -/
structure Comparable (r : FileResource) (o : Options) (m : Machine) : Prop where
  file : ∃ n, m.stat r.path = .ok n ∧ n.isFile = true ∧ Named m.accounts n
  known : ∃ ids, r.ownerIds m = .ok ids
  content : ∃ gap, r.contentDifference o m = .ok gap

/-- **Of a file that is there a comparison gives a state exactly if everything can be compared.** -/
theorem evaluate_ok_iff (hstat : m.stat r.path = .ok n) (hfile : n.isFile = true) :
    (∃ st, r.evaluate o m = .ok st) ↔ r.Comparable o m := by
  constructor
  · intro hok
    obtain ⟨st, hst⟩ := hok
    rcases evaluate_ok hst with ⟨e, he, -, -⟩ | ⟨n', gap, content, hn', hf', hgap, hcontent, -⟩
    · rw [hstat] at he
      cases he
    · obtain ⟨hknown, hnamed⟩ := ownerDifference_ok_iff.mp ⟨gap, hgap⟩
      exact ⟨⟨n', hn', hf', hnamed⟩, hknown, content, hcontent⟩
  · intro hcomparable
    obtain ⟨⟨n', hn', -, hnamed⟩, hknown, content, hcontent⟩ := hcomparable
    rw [hstat] at hn'
    cases hn'
    obtain ⟨gap, hgap⟩ := ownerDifference_ok_iff.mpr ⟨hknown, hnamed⟩
    rw [evaluate_of_ownerDifference hstat hfile hgap, hcontent]
    exact ⟨_, rfl⟩

theorem Comparable.evaluate (h : r.Comparable o m) : ∃ st, r.evaluate o m = .ok st := by
  obtain ⟨n, hstat, hfile, -⟩ := h.file
  exact (evaluate_ok_iff hstat hfile).mpr h

/-- A node of the same kind, whose owners have names, is put where the path leads. -/
theorem Comparable.put (h : r.Comparable o m) {place : Place} {before after : Node}
    (ha : m.arrive r.path = .ok (.present place before)) (hkind : after.kind = before.kind)
    (hnamed : Named m.accounts after) : r.Comparable o (m.put place after) where
  file := by
    obtain ⟨n, hstat, hfile, -⟩ := h.file
    obtain ⟨hcheck, place', ha'⟩ := stat_ok_iff.mp hstat
    rw [ha] at ha'
    cases ha'
    have hafter : after.isFile = true := by
      unfold Node.isFile at hfile ⊢
      rw [hkind]
      exact hfile
    exact ⟨after, stat_ok_iff.mpr ⟨hcheck, place, arrive_put ha hfile hafter⟩, hafter, hnamed⟩
  known := h.known
  content := by
    rw [r.contentDifference_retouched o (Retouched.put ha hkind)]
    exact h.content

/-- **A file that should be present and can be compared stays so**, whichever of its attributes are
    set. -/
theorem keeps_comparable (r : FileResource) (o : Options) :
    r.Keeps fun m => r.want = .present ∧ r.Comparable o m where
  create _ m m' hm hc := by
    obtain ⟨hw, hcomparable⟩ := hm
    obtain ⟨n, hstat, -, -⟩ := hcomparable.file
    obtain ⟨-, place, ha⟩ := stat_ok_iff.mp hstat
    obtain ⟨-, -, ⟨parent, name, hfree, -⟩ | ⟨place', node, -, -, rfl⟩⟩ := create_ok hc
    · rw [ha] at hfree
      cases hfree
    · exact ⟨hw, hcomparable⟩
  chmod _ m m' hm _ hc := by
    obtain ⟨hw, hcomparable⟩ := hm
    obtain ⟨-, place, node, ha, rfl⟩ := chmod_ok_iff.mp hc
    obtain ⟨n, hstat, -, hnamed⟩ := hcomparable.file
    obtain ⟨-, place', ha'⟩ := stat_ok_iff.mp hstat
    rw [ha] at ha'
    cases ha'
    -- the owners are as they were
    obtain ⟨user, group, hnames⟩ := hnamed
    exact ⟨hw, hcomparable.put ha rfl ⟨user, group, (fileOwner_congr rfl rfl).trans hnames⟩⟩
  chown _ m m' uid gid hm _ hids hc := by
    obtain ⟨hw, hcomparable⟩ := hm
    obtain ⟨-, place, node, ha, rfl⟩ := chown_ok_iff.mp hc
    exact ⟨hw, hcomparable.put ha rfl (named_giveTo hids node)⟩
  remove habsent _ _ hm := by
    rw [hm.1] at habsent
    cases habsent

end Converge.FileResource
