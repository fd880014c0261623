/-
  Converge.Proofs.Retouch
  ───────────────────────
  **WHAT ATTRIBUTES DO NOT DECIDE.**

  Where a path leads, and what is read there, depends on what the nodes are: files with their contents,
  directories, links with their targets.  It does not depend on their permission bits or owners.  So a
  machine on which modes and owners have been set is read like the one before.

  Main results:
    * `walk_kinds` — walks on disks that hold the same kinds of nodes;
    * `Retouched.read` — a machine whose attributes have been set is read as before.
-/
import Converge.Proofs.Calls
import Converge.FileResource.Evaluate

namespace Converge.Machine

/-! ## §1. Disks that hold the same kinds of nodes. -/

/-- The kind of the node at a place. -/
def Disk.kind? (d : Disk) (place : Place) : Option NodeKind := (d.node? place).map Node.kind

/-- The kind of what a walk finds. -/
def Found.kind? : Found → Option NodeKind
  | .present _ node => some node.kind
  | .vacant .. => none

/-- The disks hold the same kinds of nodes. -/
def SameKinds (d d' : Disk) : Prop := ∀ place, d'.kind? place = d.kind? place

theorem Node.isDirectory_of_kind {n n' : Node} (h : n'.kind = n.kind) :
    n'.isDirectory = n.isDirectory := by
  unfold Node.isDirectory
  rw [h]

namespace SameKinds

variable {d d' : Disk}

theorem refl (d : Disk) : SameKinds d d := fun _ => rfl

theorem trans {d'' : Disk} (h : SameKinds d d') (h' : SameKinds d' d'') : SameKinds d d'' :=
  fun place => (h' place).trans (h place)

/-- A node is put in the place of one of its kind. -/
theorem set {place : Place} {before after : Node} (hbefore : d.node? place = some before)
    (hkind : after.kind = before.kind) : SameKinds d (d.set place after) := by
  intro q
  unfold Disk.kind?
  by_cases hq : q = place
  · rw [hq, Disk.node?_set_self, hbefore, Option.map_some, Option.map_some, hkind]
  · rw [Disk.node?_set_of_ne d hq]

theorem none (h : SameKinds d d') {place : Place} (hp : d.node? place = none) :
    d'.node? place = none := by
  have hkind := h place
  unfold Disk.kind? at hkind
  rw [hp] at hkind
  exact Option.map_eq_none_iff.mp hkind

theorem some (h : SameKinds d d') {place : Place} {n : Node} (hp : d.node? place = some n) :
    ∃ n', d'.node? place = some n' ∧ n'.kind = n.kind := by
  have hkind := h place
  unfold Disk.kind? at hkind
  rw [hp] at hkind
  exact Option.map_eq_some_iff.mp hkind

/-- A turn looks at the kinds of nodes only. -/
theorem turn (h : SameKinds d d') (b : Nat) (place : Place) (name : String) (last : Bool) :
    turn d' true b place name last = turn d true b place name last := by
  unfold Machine.turn
  cases hn : d.node? (place ++ [name]) with
  | none => rw [h.none hn]
  | some n =>
    obtain ⟨n', hn', hkind⟩ := h.some hn
    rw [hn']
    dsimp only
    rw [hkind, Bool.not_true, Bool.and_false]
    rfl

end SameKinds

/-- **A walk that follows links finds the same kind of node on disks that hold the same kinds.** -/
theorem walk_kinds {d d' : Disk} (h : SameKinds d d') : ∀ b place todo,
    (walk d' true b place todo).map Found.kind? = (walk d true b place todo).map Found.kind? := by
  refine walk_induction d true ?missing ?arrived ?blocked ?stop ?go
  case missing =>
    intro b place todo hp
    rw [walk_missing hp, walk_missing (h.none hp)]
  case arrived =>
    intro b place here hp
    obtain ⟨here', hp', hkind⟩ := h.some hp
    rw [walk_arrived hp, walk_arrived hp']
    simp only [Except.map, Found.kind?, hkind]
  case blocked =>
    intro b place here name rest hp hd
    obtain ⟨here', hp', hkind⟩ := h.some hp
    rw [walk_blocked hp hd, walk_blocked hp' ((Node.isDirectory_of_kind hkind).trans hd)]
  case stop =>
    intro b place here name rest outcome hp hd ht
    obtain ⟨here', hp', hkind⟩ := h.some hp
    rw [walk_stop hp hd ht,
      walk_stop hp' ((Node.isDirectory_of_kind hkind).trans hd) ((h.turn ..).trans ht)]
  case go =>
    intro b place here name rest b' p' ahead hp hd ht ih
    obtain ⟨here', hp', hkind⟩ := h.some hp
    rw [walk_go hp hd ht,
      walk_go hp' ((Node.isDirectory_of_kind hkind).trans hd) ((h.turn ..).trans ht)]
    exact ih

/-! ## §2. Reading by kind. -/

/-- What is read from a node of a kind. -/
def contentOf (path : String) : NodeKind → Except CallFailure (List UInt8)
  | .file content => .ok content
  | .directory => .error (.system .isDirectory path)
  | _ => .error (.system .noDevice path)

/-- Reading is a walk, and a look at the kind of what is found. -/
theorem read_eq (m : Machine) (path : String) :
    m.read path =
      match m.precheck .read path with
      | .error e => .error e
      | .ok _ =>
        match (m.arrive path).map Found.kind? with
        | .error e => .error (.system e path)
        | .ok none => .error (.system .noEntry path)
        | .ok (some kind) => contentOf path kind := by
  unfold read existing
  rw [walkFrom_steps]
  cases m.precheck .read path with
  | error e => rfl
  | ok u =>
    match m.arrive path with
    | .error e => rfl
    | .ok (.vacant parent name) => rfl
    | .ok (.present place ⟨kind, mode, uid, gid⟩) => cases kind <;> rfl

/-! ## §3. Machines on which attributes have been set. -/

/-- The machines differ in the attributes of nodes alone. -/
def Retouched (m m' : Machine) : Prop :=
  ∃ d, m' = { m with disk := d } ∧ SameKinds m.disk d

namespace Retouched

variable {m m' m'' : Machine}

theorem refl (m : Machine) : Retouched m m := ⟨m.disk, rfl, SameKinds.refl _⟩

theorem trans (h : Retouched m m') (h' : Retouched m' m'') : Retouched m m'' := by
  obtain ⟨d, rfl, hd⟩ := h
  obtain ⟨d', rfl, hd'⟩ := h'
  exact ⟨d', rfl, hd.trans hd'⟩

theorem accounts (h : Retouched m m') : m'.accounts = m.accounts := by
  obtain ⟨d, rfl, -⟩ := h
  rfl

/-- A node with other attributes is put where a path arrived. -/
theorem put {path : String} {place : Place} {before after : Node}
    (h : m.arrive path = .ok (.present place before)) (hkind : after.kind = before.kind) :
    Retouched m (m.put place after) :=
  ⟨_, rfl, SameKinds.set (node?_of_arrive h) hkind⟩

theorem of_chmod {path : String} {mode : Nat} (h : m.chmod path mode = .ok m') :
    Retouched m m' := by
  obtain ⟨-, place, node, ha, rfl⟩ := chmod_ok_iff.mp h
  exact put ha rfl

theorem of_chown {path : String} {uid gid : Int} (h : m.chown path uid gid = .ok m') :
    Retouched m m' := by
  obtain ⟨-, place, node, ha, rfl⟩ := chown_ok_iff.mp h
  exact put ha rfl

/-- **A machine whose attributes have been set is read as before.** -/
theorem read (h : Retouched m m') (path : String) : m'.read path = m.read path := by
  obtain ⟨d, rfl, hd⟩ := h
  rw [read_eq, read_eq]
  unfold arrive
  rw [show walk d true linkBudget (Machine.start { m with disk := d } path) (steps path) =
    walk d true linkBudget (m.start path) (steps path) from rfl, walk_kinds hd]
  rfl

end Retouched

end Converge.Machine

namespace Converge.FileResource

open Converge.Machine

/-! ## §4. What is seen of a file whose attributes have been set. -/

/-- Contents compare as before. -/
theorem contentDifference_retouched (r : FileResource) (o : Options) {m m' : Machine}
    (h : Retouched m m') :
    r.contentDifference o m' = r.contentDifference o m := by
  unfold contentDifference Checksum.contentChanged Checksum.ofFile
  simp only [h.read]

end Converge.FileResource
