/-
  Converge.Proofs.Footprint
  ─────────────────────────
  **WHAT A RESOURCE TOUCHES.**

  A resource that should be present makes an empty file where its path finds a free name, or sets the
  attributes of the file that its path leads to.  One that should be absent takes away the entry that
  its path names, a file or a link to a file.  That is all, whatever fails on the way and wherever it
  stops: a failed status can make a resource create where something is, but opening for appending
  leaves a file as it is and refuses everything else.

  Main results:
    * `reconcile_footprint` — what one resource does to the machine;
    * `run_touches_one_entry_each` — what a run does to it, resource by resource.
-/
import Converge.Proofs.Runs
import Converge.Proofs.Steps
import Mathlib.Data.List.Induction

namespace Converge.FileResource

open Converge.Machine Act

/-! ## §1. Footprints. -/

/-- What a resource may have made of a machine. -/
inductive Footprint (r : FileResource) (m : Machine) : Machine → Prop where
  | untouched : Footprint r m m
  /-- A new empty file is where the path found a free name. -/
  | appeared {parent : Place} {name : String} {node : Node} (want : r.want = .present)
      (free : m.arrive r.path = .ok (.vacant parent name)) (empty : node.kind = .file []) :
      Footprint r m (m.put (parent ++ [name]) node)
  /-- The file that the path leads to has other attributes. -/
  | adjusted {place : Place} {before after : Node} (want : r.want = .present)
      (there : m.arrive r.path = .ok (.present place before)) (file : before.isFile = true)
      (same : after.kind = before.kind) : Footprint r m (m.put place after)
  /-- The entry that the path names is gone: a file, or a link that led to one. -/
  | disappeared {place : Place} {entry : Node} (want : r.want = .absent)
      (named : m.entryOf r.path = .ok (.present place entry)) (root : place ≠ [])
      (kind : entry.isFile = true ∨ entry.isLink = true) (file : m.LeadsToFile r.path) :
      Footprint r m (m.without place)

theorem isFile_of_empty {a : Node} (h : a.kind = .file []) : a.isFile = true := by
  unfold Node.isFile
  rw [h]

namespace Footprint

variable {r : FileResource} {m m' m'' : Machine}

/-- A file that was put where the path leads is still the one that the path leads to. -/
theorem arrive_eq (h : Footprint r m m') (hw : r.want = .present) {place : Place} {node : Node}
    (ha : m'.arrive r.path = .ok (.present place node)) (hfile : node.isFile = true) {other : Node}
    (hkind : other.kind = node.kind) : Footprint r m (m'.put place other) := by
  cases h with
  | untouched => exact .adjusted hw ha hfile hkind
  | @appeared parent name new want free empty =>
    rw [arrive_put_vacant free (isFile_of_empty empty)] at ha
    cases ha
    rw [put_put]
    exact .appeared want free (hkind.trans empty)
  | @adjusted place' before after want there file same =>
    rw [arrive_put there file ((isFile_of_kind same).trans file)] at ha
    cases ha
    rw [put_put]
    exact .adjusted want there file (hkind.trans same)
  | disappeared want => rw [hw] at want; cases want

/-- Opening for appending. -/
theorem create (h : Footprint r m m') (hw : r.want = .present) (hc : m'.create r.path = .ok m'') :
    Footprint r m m'' := by
  obtain ⟨-, -, ⟨parent, name, ha, rfl⟩ | ⟨place, node, ha, hfile, rfl⟩⟩ := create_ok hc
  · -- a name is free only as long as nothing has been put there
    cases h with
    | untouched => exact .appeared hw ha rfl
    | @appeared parent' name' new want free empty =>
      rw [arrive_put_vacant free (isFile_of_empty empty)] at ha
      cases ha
    | @adjusted place' before after want there file same =>
      rw [arrive_put there file ((isFile_of_kind same).trans file)] at ha
      cases ha
    | disappeared want => rw [hw] at want; cases want
  · exact h

/-- Setting the mode. -/
theorem chmod (h : Footprint r m m') (hw : r.want = .present) (hl : m'.LeadsToFile r.path)
    {mode : Nat} (hc : m'.chmod r.path mode = .ok m'') : Footprint r m m'' := by
  obtain ⟨place, node, ha, hfile⟩ := hl
  obtain ⟨-, place', node', ha', rfl⟩ := chmod_ok_iff.mp hc
  rw [ha] at ha'
  cases ha'
  exact h.arrive_eq hw ha hfile rfl

/-- Setting the owner. -/
theorem chown (h : Footprint r m m') (hw : r.want = .present) (hl : m'.LeadsToFile r.path)
    {uid gid : Int} (hc : m'.chown r.path uid gid = .ok m'') : Footprint r m m'' := by
  obtain ⟨place, node, ha, hfile⟩ := hl
  obtain ⟨-, place', node', ha', rfl⟩ := chown_ok_iff.mp hc
  rw [ha] at ha'
  cases ha'
  exact h.arrive_eq hw ha hfile rfl

/-- Of a resource that should be absent a second removal finds nothing. -/
theorem remove (h : Footprint r m m') (hw : r.want = .absent) (hl : m'.LeadsToFile r.path)
    (hgone : m' = m ∨ LeadsNowhere (m'.arrive r.path)) (hc : m'.remove r.path = .ok m'') :
    Footprint r m m'' := by
  rcases hgone with rfl | hgone
  · -- nothing was done before
    obtain ⟨place, entry, hentry, hroot, hkind, rfl⟩ := remove_entry hc hl
    exact .disappeared hw hentry hroot hkind hl
  · -- the file is gone, so the path leads to none
    obtain ⟨place, node, ha, -⟩ := hl
    rw [ha] at hgone
    exact hgone.elim

end Footprint

/-- The calls of a resource stay within its footprint. -/
theorem keeps_footprint (r : FileResource) (m₀ : Machine) :
    r.Keeps fun m => Footprint r m₀ m ∧
      (r.want = .absent → m = m₀ ∨ LeadsNowhere (m.arrive r.path)) where
  create hw m m' h hc := ⟨h.1.create hw hc, fun ha => by rw [hw] at ha; cases ha⟩
  chmod hw m m' h hl hc := ⟨h.1.chmod hw hl hc, fun ha => by rw [hw] at ha; cases ha⟩
  chown hw m m' uid gid h hl _ hc := ⟨h.1.chown hw hl hc, fun ha => by rw [hw] at ha; cases ha⟩
  remove hw m m' h hl hc := ⟨h.1.remove hw hl (h.2 hw) hc, fun _ => Or.inr (arrive_without hc)⟩

/-- **What bringing a resource to its state does to the machine**, whether it ends in a state or in a
    failure. -/
theorem reconcile_footprint (r : FileResource) (o : Options) (s : Session) :
    Footprint r s.machine (perform (r.reconcile o) s).2.machine :=
  ((keeps_footprint r s.machine).reconcile (o := o)).after ⟨.untouched, fun _ => Or.inl rfl⟩ |>.1

/-! ## §2. Place by place. -/

/-- What became of a node: it is as it was, or a file with other attributes, or a file or link that is
    gone. -/
def Spared (node : Node) : Option Node → Prop
  | some after => after = node ∨ (node.isFile = true ∧ after.kind = node.kind)
  | none => node.isFile = true ∨ node.isLink = true

theorem Spared.eq_of_other {node : Node} {after : Option Node} (h : Spared node after)
    (hfile : node.isFile = false) (hlink : node.isLink = false) : after = some node := by
  cases after with
  | none => simp [Spared, hfile, hlink] at h
  | some n => simpa [Spared, hfile] using h

theorem node?_of_entry {m : Machine} {path : String} {place : Place} {entry : Node}
    (h : m.entryOf path = .ok (.present place entry)) : m.disk.node? place = some entry :=
  (walk_ok m.disk false _ _ _ _ h).1 place entry rfl

/-- What has been touched: one entry at most, within the footprint, and every node was spared. -/
structure Touched (r : FileResource) (m m' : Machine) : Prop where
  footprint : Footprint r m m'
  /-- All places but one are as they were. -/
  elsewhere : ∃ place, ∀ q, q ≠ place → m'.disk.node? q = m.disk.node? q
  spared : ∀ q node, m.disk.node? q = some node → Spared node (m'.disk.node? q)

/-- A footprint is one entry, and what was there is spared. -/
theorem Footprint.touched {r : FileResource} {m m' : Machine} (h : Footprint r m m') :
    Touched r m m' := by
  refine ⟨h, ?_, ?_⟩
  · cases h with
    | untouched => exact ⟨[], fun q _ => rfl⟩
    | appeared => exact ⟨_, fun q hq => Disk.node?_set_of_ne _ hq _⟩
    | adjusted => exact ⟨_, fun q hq => Disk.node?_set_of_ne _ hq _⟩
    | disappeared => exact ⟨_, fun q hq => Disk.node?_erase_of_ne _ hq⟩
  · intro q node hq
    cases h with
    | untouched =>
      rw [hq]
      exact Or.inl rfl
    | @appeared parent name new want free empty =>
      -- nothing was there, so this is another place
      have hne : q ≠ parent ++ [name] := by
        intro heq
        subst heq
        rw [node?_of_vacant free] at hq
        cases hq
      show Spared node ((m.disk.set _ _).node? q)
      rw [Disk.node?_set_of_ne _ hne, hq]
      exact Or.inl rfl
    | @adjusted place before after want there file same =>
      show Spared node ((m.disk.set _ _).node? q)
      by_cases hqp : q = place
      · -- the file itself keeps its content
        subst hqp
        rw [node?_of_arrive there] at hq
        cases hq
        rw [Disk.node?_set_self]
        exact Or.inr ⟨file, same⟩
      · rw [Disk.node?_set_of_ne _ hqp, hq]
        exact Or.inl rfl
    | @disappeared place entry want named root kind file =>
      show Spared node ((m.disk.erase _).node? q)
      by_cases hqp : q = place
      · -- the entry is gone, and it was a file or a link
        subst hqp
        rw [node?_of_entry named] at hq
        cases hq
        rw [Disk.node?_erase_self _ root]
        exact kind
      · rw [Disk.node?_erase_of_ne _ hqp, hq]
        exact Or.inl rfl

end Converge.FileResource

namespace Converge.Runner

open Converge.Machine Act FileResource

/-! ## §3. Runs. -/

/-- One more resource in a run touches what it touches alone. -/
theorem touched_snoc (o : Options) (front : List FileResource) (r : FileResource) (s : Session) :
    Touched r (machineAfter .apply o front s) (machineAfter .apply o (front ++ [r]) s) := by
  rw [machineAfter_snoc]
  unfold machineAfter
  match perform (run .apply o front) s with
  | (.ok _, s₁) => exact (reconcile_footprint r o s₁).touched
  | (.error _, s₁) => exact Footprint.untouched.touched

/-- A run leaves alone what is neither a file nor a link. -/
theorem node?_machineAfter (o : Options) (s : Session) {q : Place} {node : Node}
    (hq : s.machine.disk.node? q = some node) (hfile : node.isFile = false)
    (hlink : node.isLink = false) (rs : List FileResource) :
    (machineAfter .apply o rs s).disk.node? q = some node := by
  induction rs using List.reverseRecOn with
  | nil => exact hq
  | append_singleton front r ih =>
    exact ((touched_snoc o front r s).spared q node ih).eq_of_other hfile hlink

/-- **A resource touches one entry at most**, in a run as well as alone, whatever the faults and
    however it ends: it makes an empty file where its path finds a free name, sets attributes of the
    file that its path leads to, or takes away the file or link that its path names.  What is neither
    a file nor a link outlives every run unchanged. -/
theorem run_touches_one_entry_each (o : Options) (s : Session) :
    (∀ r : FileResource, Touched r s.machine (perform (r.reconcile o) s).2.machine) ∧
    (∀ front r, Touched r (machineAfter .apply o front s)
      (machineAfter .apply o (front ++ [r]) s)) ∧
    (∀ rs q node, s.machine.disk.node? q = some node → node.isFile = false →
      node.isLink = false → (machineAfter .apply o rs s).disk.node? q = some node) := by
  refine ⟨?_, ?_, ?_⟩
  · intro r
    exact (reconcile_footprint r o s).touched
  · intro front r
    exact touched_snoc o front r s
  · intro rs q node hq hfile hlink
    exact node?_machineAfter o s hq hfile hlink rs

end Converge.Runner
