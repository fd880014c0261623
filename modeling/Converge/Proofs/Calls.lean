/-
  Converge.Proofs.Calls
  ─────────────────────
  **WHAT A SYSTEM CALL THAT SUCCEEDS HAS DONE.**

  Every call on a path first passes the same checks, then walks.  Seen so, `create` puts a file where
  the path finds a free name, `chmod` and `chown` put the node that the path leads to back with other
  attributes, and `remove` takes away the entry that the last name stands for.

  Main results:
    * `create_ok_iff`, `chmod_ok_iff`, `chown_ok_iff`, `remove_entry` — the machine after a call;
    * `LeadsToFile.chmod`, `LeadsToFile.chown` — a path that leads to a file goes on doing so;
    * `arrive_without` — after a removal the path leads nowhere.
-/
import Converge.Machine.System
import Converge.Proofs.Walk

namespace Converge.Machine

/-! ## §1. Checks before a walk. -/

/-- A path that a call can be made on. -/
structure Fit (path : String) : Prop where
  /-- It holds no NUL. -/
  noNul : hasNul path = false
  /-- It is not empty. -/
  nonempty : path ≠ ""
  /-- It is not too long. -/
  short : path.utf8ByteSize < pathLimit

theorem precheck_of_fault {m : Machine} {call : Call} {path : String} {e : Errno}
    (h : m.faultFor? call path = some e) : m.precheck call path = .error (.system e path) := by
  unfold precheck
  rw [h]

theorem precheck_of_noFault {m : Machine} {call : Call} {path : String}
    (h : m.faultFor? call path = none) :
    m.precheck call path =
      if hasNul path then .error .nulInPath
      else if path = "" then .error (.system .noEntry path)
      else if pathLimit ≤ path.utf8ByteSize then .error (.system .nameTooLong path)
      else .ok () := by
  unfold precheck
  rw [h]

/-- The checks let exactly the paths through that a call can be made on and no fault meets. -/
theorem precheck_ok_iff {m : Machine} {call : Call} {path : String} :
    m.precheck call path = .ok () ↔ m.faultFor? call path = none ∧ Fit path := by
  cases hf : m.faultFor? call path with
  | some e => simp [precheck_of_fault hf]
  | none =>
    rw [precheck_of_noFault hf]
    constructor
    · intro h
      split at h
      · cases h
      split at h
      · cases h
      split at h
      · cases h
      exact ⟨rfl, by simp_all, by assumption, by omega⟩
    · intro hok
      obtain ⟨-, hfit⟩ := hok
      rw [if_neg (by simp [hfit.noNul]), if_neg hfit.nonempty, if_neg (by have := hfit.short; omega)]

/-- A NUL is met exactly in a path that holds one, if no fault comes before. -/
theorem precheck_nul_iff {m : Machine} {call : Call} {path : String} :
    m.precheck call path = .error .nulInPath ↔
      hasNul path = true ∧ m.faultFor? call path = none := by
  cases hf : m.faultFor? call path with
  | some e => simp [precheck_of_fault hf]
  | none =>
    rw [precheck_of_noFault hf]
    by_cases hnul : hasNul path = true
    · simp [hnul]
    · simp only [hnul, false_and, iff_false, Bool.false_eq_true, if_false]
      intro h
      split at h
      · cases h
      split at h <;> cases h

/-- Where there are no faults, none meets a call. -/
theorem faultFor?_of_nil {m : Machine} (h : m.faults = []) (call : Call) (path : String) :
    m.faultFor? call path = none := by
  simp [faultFor?, h]

/-! ## §2. Where a path leads. -/

/-- Where a path leads, a final link followed. -/
def arrive (m : Machine) (path : String) : Except Errno Found :=
  walk m.disk true linkBudget (m.start path) (steps path)

/-- The machine with a node at a place. -/
def put (m : Machine) (place : Place) (node : Node) : Machine :=
  { m with disk := m.disk.set place node }

/-- The machine without what is at a place. -/
def without (m : Machine) (place : Place) : Machine := { m with disk := m.disk.erase place }

@[simp] theorem put_put (m : Machine) (place : Place) (a b : Node) :
    (m.put place a).put place b = m.put place b := by
  simp [put]

@[simp] theorem mapError_ok {ε ε' α : Type} (g : ε → ε') (a : α) :
    (Except.ok a).mapError g = .ok a := rfl

@[simp] theorem mapError_error {ε ε' α : Type} (g : ε → ε') (e : ε) :
    (Except.error e : Except ε α).mapError g = .error (g e) := rfl

theorem throw_eq {α : Type} (e : CallFailure) :
    (throw e : Except CallFailure α) = .error e := rfl

theorem walkFrom_steps (m : Machine) (path : String) :
    m.walkFrom path true (steps path) = (m.arrive path).mapError (.system · path) := rfl

theorem existing_ok_iff {m : Machine} {call : Call} {path : String} {place : Place} {node : Node} :
    m.existing call path true = .ok (place, node) ↔
      m.precheck call path = .ok () ∧ m.arrive path = .ok (.present place node) := by
  unfold existing
  rw [walkFrom_steps]
  cases hc : m.precheck call path with
  | error e => simp [bind, Except.bind]
  | ok u =>
    cases ha : m.arrive path with
    | error e => simp [bind, Except.bind]
    | ok found =>
      cases found with
      | present p n => simp [bind, Except.bind, pure, Except.pure]
      | vacant p name => simp [bind, Except.bind]

/-- A call on an existing path succeeds where the checks pass and the path leads to a node. -/
theorem existing_map_ok_iff {α : Type} {m : Machine} {call : Call} {path : String}
    {f : Place × Node → α} {a : α} :
    (m.existing call path true).map f = .ok a ↔
      m.precheck call path = .ok () ∧
        ∃ place node, m.arrive path = .ok (.present place node) ∧ a = f (place, node) := by
  cases h : m.existing call path true with
  | error e =>
    simp only [Except.map, reduceCtorEq, false_iff]
    intro hok
    obtain ⟨hc, place, node, ha, -⟩ := hok
    rw [existing_ok_iff.mpr ⟨hc, ha⟩] at h
    cases h
  | ok r =>
    obtain ⟨hc, ha⟩ := existing_ok_iff.mp h
    constructor
    · intro hf
      cases hf
      exact ⟨hc, r.1, r.2, ha, rfl⟩
    · intro hok
      obtain ⟨-, place, node, ha', rfl⟩ := hok
      rw [ha] at ha'
      cases ha'
      rfl

theorem stat_ok_iff {m : Machine} {path : String} {n : Node} :
    m.stat path = .ok n ↔
      m.precheck .stat path = .ok () ∧ ∃ place, m.arrive path = .ok (.present place n) := by
  unfold stat
  rw [existing_map_ok_iff]
  constructor
  · intro hok
    obtain ⟨hc, place, node, ha, rfl⟩ := hok
    exact ⟨hc, place, ha⟩
  · intro hok
    obtain ⟨hc, place, ha⟩ := hok
    exact ⟨hc, place, n, ha, rfl⟩

/-- The status of a path that does not pass the checks is refused as they say. -/
theorem stat_of_refused {m : Machine} {path : String} {e : CallFailure}
    (h : m.precheck .stat path = .error e) : m.stat path = .error e := by
  unfold stat existing
  rw [h]
  rfl

/-- The status of a path, once the checks are passed, is what the walk arrives at. -/
theorem stat_eq {m : Machine} {path : String} (hc : m.precheck .stat path = .ok ()) :
    m.stat path =
      match m.arrive path with
      | .error e => .error (.system e path)
      | .ok (.vacant ..) => .error (.system .noEntry path)
      | .ok (.present _ node) => .ok node := by
  unfold stat existing
  rw [walkFrom_steps, hc]
  cases m.arrive path with
  | error e => rfl
  | ok found => cases found <;> rfl

/-! ## §3. Attributes. -/

/-- The machine after a change of permissions. -/
theorem chmod_ok_iff {m m' : Machine} {path : String} {mode : Nat} :
    m.chmod path mode = .ok m' ↔
      m.precheck .chmod path = .ok () ∧ ∃ place node, m.arrive path = .ok (.present place node) ∧
        m' = m.put place { node with mode := mode % 0o10000 } := by
  rw [← existing_map_ok_iff (f := fun r => m.put r.1 { r.2 with mode := mode % 0o10000 })]
  unfold chmod
  cases m.existing .chmod path true <;> rfl

/-- The machine after a change of owner. -/
theorem chown_ok_iff {m m' : Machine} {path : String} {uid gid : Int} :
    m.chown path uid gid = .ok m' ↔
      m.precheck .chown path = .ok () ∧ ∃ place node, m.arrive path = .ok (.present place node) ∧
        m' = m.put place (node.giveTo uid gid) := by
  rw [← existing_map_ok_iff (f := fun r => m.put r.1 (r.2.giveTo uid gid))]
  unfold chown
  cases m.existing .chown path true <;> rfl

section Arrived

variable {m m' : Machine} {path : String} {place : Place} {node : Node}

/-- A change of permissions where the path is known to lead. -/
theorem chmod_of_arrive (ha : m.arrive path = .ok (.present place node)) {mode : Nat} :
    m.chmod path mode = .ok m' ↔ m.precheck .chmod path = .ok () ∧
      m' = m.put place { node with mode := mode % 0o10000 } := by
  rw [chmod_ok_iff]
  constructor
  · intro hok
    obtain ⟨hc, p, n, ha', rfl⟩ := hok
    rw [ha] at ha'
    cases ha'
    exact ⟨hc, rfl⟩
  · intro hok
    exact ⟨hok.1, place, node, ha, hok.2⟩

/-- A change of owner where the path is known to lead. -/
theorem chown_of_arrive (ha : m.arrive path = .ok (.present place node)) {uid gid : Int} :
    m.chown path uid gid = .ok m' ↔ m.precheck .chown path = .ok () ∧
      m' = m.put place (node.giveTo uid gid) := by
  rw [chown_ok_iff]
  constructor
  · intro hok
    obtain ⟨hc, p, n, ha', rfl⟩ := hok
    rw [ha] at ha'
    cases ha'
    exact ⟨hc, rfl⟩
  · intro hok
    exact ⟨hok.1, place, node, ha, hok.2⟩

end Arrived

/-! ## §4. Creation. -/

theorem steps_of_noSlash {path : String} (h : endsWithSlash path = false) :
    steps path = namesOf path := by
  simp [steps, h]

/-- Opening for appending, once the checks are passed, is a walk. -/
theorem create_eq {m : Machine} {path : String} (hc : m.precheck .create path = .ok ())
    (hs : endsWithSlash path = false) :
    m.create path =
      match m.arrive path with
      | .error e => .error (.system e path)
      | .ok (.vacant parent name) => .ok (m.put (parent ++ [name]) m.newFile)
      | .ok (.present _ node) =>
        match node.kind with
        | .file _ => .ok m
        | .directory => .error (.system .isDirectory path)
        | _ => .error (.system .noDevice path) := by
  unfold create
  rw [walkFrom_steps, hc, hs]
  cases m.arrive path with
  | error e => rfl
  | ok found =>
    cases found with
    | vacant parent name => rfl
    | present place node =>
      obtain ⟨kind, mode, uid, gid⟩ := node
      cases kind <;> rfl

/-- A path that ends with a slash creates nothing. -/
theorem create_slash {m m' : Machine} {path : String} (hs : endsWithSlash path = true) :
    m.create path ≠ .ok m' := by
  unfold create
  cases m.precheck .create path with
  | error e => simp [bind, Except.bind]
  | ok u =>
    cases m.parentOf path <;> simp [hs, bind, Except.bind, throw_eq]

/-- The machine after a file was opened for appending. -/
theorem create_ok {m m' : Machine} {path : String} (h : m.create path = .ok m') :
    m.precheck .create path = .ok () ∧ endsWithSlash path = false ∧
      ((∃ parent name, m.arrive path = .ok (.vacant parent name) ∧
          m' = m.put (parent ++ [name]) m.newFile)
        ∨ (∃ place node, m.arrive path = .ok (.present place node) ∧ node.isFile = true ∧ m' = m)) := by
  cases hc : m.precheck .create path with
  | error e => simp [create, hc, bind, Except.bind] at h
  | ok u =>
    cases hs : endsWithSlash path with
    | true => exact absurd h (create_slash hs)
    | false =>
      refine ⟨rfl, rfl, ?_⟩
      rw [create_eq hc hs] at h
      match ha : m.arrive path with
      | .error e => rw [ha] at h; cases h
      | .ok (.vacant parent name) =>
        rw [ha] at h
        cases h
        exact Or.inl ⟨parent, name, rfl, rfl⟩
      | .ok (.present place node) =>
        rw [ha] at h
        have hfile : node.isFile = true ∧ m' = m := by
          unfold Node.isFile
          cases hk : node.kind <;> simp only [hk] at h <;> cases h
          exact ⟨rfl, rfl⟩
        exact Or.inr ⟨place, node, rfl, hfile.1, hfile.2⟩

/-! ## §5. Removal. -/

/-- The machine after a removal. -/
theorem remove_ok {m m' : Machine} {path : String} (h : m.remove path = .ok m') :
    m.precheck .remove path = .ok () ∧
    ∃ parent name entry, m.parentOf path = .ok parent ∧ (namesOf path).getLast? = some name ∧
      name ≠ "." ∧ name ≠ ".." ∧ name.utf8ByteSize ≤ maxName ∧
      m.disk.node? (parent ++ [name]) = some entry ∧ entry.isDirectory = false ∧
      endsWithSlash path = false ∧ m' = m.without (parent ++ [name]) := by
  unfold remove at h
  cases hc : m.precheck .remove path with
  | error e => simp [hc, bind, Except.bind] at h
  | ok u =>
    simp only [hc, bind, Except.bind] at h
    split at h
    · cases h
    · rename_i name hlast
      split at h
      · cases h
      · rename_i parent hparent
        split at h
        · cases h
        split at h
        · cases h
        split at h
        · cases h
        · rename_i hdots hlong _ entry hentry
          rw [not_or] at hdots
          split at h
          · cases h
          split at h
          · cases h
          · cases h
            exact ⟨rfl, parent, name, entry, hparent, hlast, hdots.1, hdots.2, by omega, hentry,
              by simp_all, by simp_all, rfl⟩

/-- What is no directory can be removed by a path that ends with its name. -/
theorem remove_of_entry {m : Machine} {path name : String} {parent : Place} {entry : Node}
    (hc : m.precheck .remove path = .ok ()) (hparent : m.parentOf path = .ok parent)
    (hlast : (namesOf path).getLast? = some name) (hdot : name ≠ ".") (hup : name ≠ "..")
    (hshort : name.utf8ByteSize ≤ maxName) (hentry : m.disk.node? (parent ++ [name]) = some entry)
    (hdir : entry.isDirectory = false) (hslash : endsWithSlash path = false) :
    m.remove path = .ok (m.without (parent ++ [name])) := by
  unfold remove
  rw [hc, hlast, hparent]
  simp only [bind, Except.bind, hdot, hup, or_self, if_false, Nat.not_lt.mpr hshort, hentry, hdir,
    hslash, Bool.false_eq_true]
  rfl

/-! ## §6. A path that leads to a file. -/

/-- The path leads to a regular file. -/
def LeadsToFile (m : Machine) (path : String) : Prop :=
  ∃ place node, m.arrive path = .ok (.present place node) ∧ node.isFile = true

/-- What a path arrives at is there. -/
theorem node?_of_arrive {m : Machine} {path : String} {place : Place} {node : Node}
    (h : m.arrive path = .ok (.present place node)) : m.disk.node? place = some node :=
  (walk_ok m.disk true _ _ _ _ h).1 place node rfl

/-- A name that a path finds free is free. -/
theorem node?_of_vacant {m : Machine} {path : String} {parent : Place} {name : String}
    (h : m.arrive path = .ok (.vacant parent name)) : m.disk.node? (parent ++ [name]) = none :=
  (walk_ok m.disk true _ _ _ _ h).2 parent name rfl

/-- A file put where the path arrived is what the path leads to. -/
theorem arrive_put {m : Machine} {path : String} {place : Place} {node file : Node}
    (h : m.arrive path = .ok (.present place node)) (hnode : node.isFile = true)
    (hfile : file.isFile = true) :
    (m.put place file).arrive path = .ok (.present place file) := by
  have hq : ∀ n, m.disk.node? place = some n → n.isFile = true := by
    intro n hn
    rw [node?_of_arrive h] at hn
    cases hn
    exact hnode
  have hwalk := walk_set hq hfile true _ _ _ _ h
  rw [show (Found.present place node).put place file = .present place file by simp [Found.put]]
    at hwalk
  exact hwalk

/-- A file put where the path found a free name is what the path leads to. -/
theorem arrive_put_vacant {m : Machine} {path : String} {parent : Place} {name : String}
    {file : Node} (h : m.arrive path = .ok (.vacant parent name)) (hfile : file.isFile = true) :
    (m.put (parent ++ [name]) file).arrive path = .ok (.present (parent ++ [name]) file) := by
  have hq : ∀ n, m.disk.node? (parent ++ [name]) = some n → n.isFile = true := by
    intro n hn
    rw [node?_of_vacant h] at hn
    cases hn
  have hwalk := walk_set hq hfile true _ _ _ _ h
  rw [show (Found.vacant parent name).put (parent ++ [name]) file = .present (parent ++ [name]) file by
    simp [Found.put]] at hwalk
  exact hwalk

theorem newFile_isFile (m : Machine) : m.newFile.isFile = true := rfl

theorem isFile_of_kind {a b : Node} (h : a.kind = b.kind) : a.isFile = b.isFile := by
  unfold Node.isFile
  rw [h]

theorem kind_of_isFile {n : Node} (h : n.isFile = true) : ∃ content, n.kind = .file content := by
  unfold Node.isFile at h
  cases hk : n.kind <;> simp_all

theorem isDirectory_of_isFile {n : Node} (h : n.isFile = true) : n.isDirectory = false := by
  unfold Node.isFile at h
  unfold Node.isDirectory
  cases hk : n.kind <;> simp_all

/-- Putting a file where it is changes nothing. -/
theorem put_of_arrive {m : Machine} {path : String} {place : Place} {file : Node}
    (h : m.arrive path = .ok (.present place file)) (hfile : file.isFile = true) :
    m.put place file = m := by
  unfold put
  rw [Disk.set_of_node? (node?_of_arrive h) (isDirectory_of_isFile hfile)]

/-- Opening a path for appending gives a file at a place: the one that the path leads to, or a new one
    where it finds a free name. -/
inductive Opens (m : Machine) (path : String) : Place → Node → Prop where
  | there {place : Place} {file : Node} (leads : m.arrive path = .ok (.present place file))
      (isFile : file.isFile = true) : Opens m path place file
  | new {parent : Place} {name : String} (free : m.arrive path = .ok (.vacant parent name)) :
      Opens m path (parent ++ [name]) m.newFile

namespace Opens

variable {m : Machine} {path : String} {place : Place} {file other : Node}

theorem isFile (h : m.Opens path place file) : file.isFile = true := by
  cases h with
  | there _ isFile => exact isFile
  | new => exact m.newFile_isFile

/-- A file put where the path was opened is what the path leads to. -/
theorem arrive_put (h : m.Opens path place file) (hother : other.isFile = true) :
    (m.put place other).arrive path = .ok (.present place other) := by
  cases h with
  | there leads isFile => exact Machine.arrive_put leads isFile hother
  | new free => exact arrive_put_vacant free hother

/-- Nothing but a file is where a path is opened. -/
theorem node? (h : m.Opens path place file) {n : Node} (hn : m.disk.node? place = some n) :
    n.isFile = true := by
  cases h with
  | there leads isFile =>
    rw [node?_of_arrive leads] at hn
    cases hn
    exact isFile
  | new free =>
    rw [node?_of_vacant free] at hn
    cases hn

end Opens

/-- **The machine after a file was opened for appending.** -/
theorem create_ok_iff {m m' : Machine} {path : String} :
    m.create path = .ok m' ↔ m.precheck .create path = .ok () ∧ endsWithSlash path = false ∧
      ∃ place file, m.Opens path place file ∧ m' = m.put place file := by
  constructor
  · intro h
    obtain ⟨hcheck, hslash, hcases⟩ := create_ok h
    refine ⟨hcheck, hslash, ?_⟩
    rcases hcases with ⟨parent, name, free, rfl⟩ | ⟨place, file, leads, isFile, rfl⟩
    · exact ⟨_, _, .new free, rfl⟩
    · exact ⟨place, file, .there leads isFile, (put_of_arrive leads isFile).symm⟩
  · intro h
    obtain ⟨hcheck, hslash, place, file, hopens, rfl⟩ := h
    rw [create_eq hcheck hslash]
    cases hopens with
    | new free => rw [free]
    | there leads isFile =>
      rw [leads, put_of_arrive leads isFile]
      unfold Node.isFile at isFile
      cases hk : file.kind <;> simp_all

/-- After a creation the path leads to a file. -/
theorem leadsToFile_of_create {m m' : Machine} {path : String} (h : m.create path = .ok m') :
    m'.LeadsToFile path := by
  obtain ⟨-, -, ⟨parent, name, ha, rfl⟩ | ⟨place, node, ha, hfile, rfl⟩⟩ := create_ok h
  · exact ⟨_, _, arrive_put_vacant ha m.newFile_isFile, m.newFile_isFile⟩
  · exact ⟨place, node, ha, hfile⟩

/-- A change of permissions leaves a file where it was. -/
theorem LeadsToFile.chmod {m m' : Machine} {path : String} {mode : Nat} (hm : m.LeadsToFile path)
    (h : m.chmod path mode = .ok m') : m'.LeadsToFile path := by
  obtain ⟨place, node, ha, hfile⟩ := hm
  obtain ⟨-, place', node', ha', rfl⟩ := chmod_ok_iff.mp h
  rw [ha] at ha'
  cases ha'
  exact ⟨place, _, arrive_put ha hfile hfile, hfile⟩

/-- A change of owner leaves a file where it was. -/
theorem LeadsToFile.chown {m m' : Machine} {path : String} {uid gid : Int} (hm : m.LeadsToFile path)
    (h : m.chown path uid gid = .ok m') : m'.LeadsToFile path := by
  obtain ⟨place, node, ha, hfile⟩ := hm
  obtain ⟨-, place', node', ha', rfl⟩ := chown_ok_iff.mp h
  rw [ha] at ha'
  cases ha'
  exact ⟨place, _, arrive_put ha hfile hfile, hfile⟩

/-! ## §7. The entry that a path names. -/

/-- The walk to a path's parent. -/
theorem parentOf_ok {m : Machine} {path : String} {parent : Place}
    (h : m.parentOf path = .ok parent) :
    ∃ n, walk m.disk true linkBudget (m.start path) ((namesOf path).dropLast ++ ["."]) =
      .ok (.present parent n) := by
  unfold parentOf walkFrom at h
  match hw : walk m.disk true linkBudget (m.start path) ((namesOf path).dropLast ++ ["."]) with
  | .error e => rw [hw] at h; cases h
  | .ok (.vacant p name) => rw [hw] at h; cases h
  | .ok (.present p n) =>
    rw [hw] at h
    cases h
    exact ⟨n, rfl⟩

theorem namesOf_eq {path name : String} (h : (namesOf path).getLast? = some name) :
    namesOf path = (namesOf path).dropLast ++ [name] := by
  obtain ⟨front, hfront⟩ := List.getLast?_eq_some_iff.mp h
  rw [hfront, List.dropLast_concat]

/-- The turn at a name that is too long. -/
theorem turn_tooLong {d : Disk} {f last : Bool} {b : Nat} {parent : Place} {name : String}
    (h : maxName < name.utf8ByteSize) :
    turn d f b parent name last = .stop (.error .nameTooLong) := by
  unfold turn
  rw [if_pos h]

/-- The turn at a last name that is free. -/
theorem turn_free {d : Disk} {f : Bool} {b : Nat} {parent : Place} {name : String}
    (hshort : name.utf8ByteSize ≤ maxName) (hdot : name ≠ ".") (hup : name ≠ "..")
    (hfree : d.node? (parent ++ [name]) = none) :
    turn d f b parent name true = .stop (.ok (.vacant parent name)) := by
  unfold turn
  rw [if_neg (by omega), if_neg hdot, if_neg hup, hfree]
  rfl

/-- The turn at an entry that is there: a final link that is not followed ends the walk, and what is no
    link is gone to. -/
theorem turn_at {d : Disk} {parent : Place} {name : String} {entry : Node}
    (hshort : name.utf8ByteSize ≤ maxName) (hdot : name ≠ ".") (hup : name ≠ "..")
    (hentry : d.node? (parent ++ [name]) = some entry) (b : Nat) (f last : Bool) :
    (entry.isLink = true → (last && !f) = true →
      turn d f b parent name last = .stop (.ok (.present (parent ++ [name]) entry))) ∧
    (entry.isLink = false → turn d f b parent name last = .go b (parent ++ [name]) []) := by
  unfold turn
  rw [if_neg (by omega), if_neg hdot, if_neg hup, hentry]
  unfold Node.isLink
  constructor
  · intro hlink hlast
    cases hk : entry.kind <;> simp_all
  · intro hlink
    cases hk : entry.kind <;> simp_all

/-- A walk that ends with `.` at a directory goes on from there. -/
theorem walk_dot {d : Disk} {f : Bool} {b : Nat} {place : Place} {n : Node}
    (hn : d.node? place = some n) (hdir : n.isDirectory = true) :
    walk d f b place ["."] = .ok (.present place n) := by
  have hturn : turn d f b place "." ([] : List String).isEmpty = .go b place [] := rfl
  rw [walk_go hn hdir hturn]
  exact walk_arrived hn

/-- If the way to a directory is as before or leads nowhere, then the last name is looked up in that
    directory or not at all. -/
theorem walk_parent {d d' : Disk} {b : Nat} {place parent : Place} {n : Node} {front : List String}
    (h : walk d true b place (front ++ ["."]) = .ok (.present parent n))
    (hd : walk d' true b place (front ++ ["."]) = walk d true b place (front ++ ["."])
      ∨ LeadsNowhere (walk d' true b place (front ++ ["."]))) :
    (∀ f name, walk d' f b place (front ++ [name]) = .error .noEntry)
    ∨ ∃ b' n', d'.node? parent = some n' ∧ n'.isDirectory = true ∧
        ∀ f name, walk d' f b place (front ++ [name]) = walk d' f b' parent [name] := by
  rcases walk_append d' b place front with ⟨e, he⟩ | ⟨b', p, n', hn', hdir, hback⟩
  · -- no walk gets to the directory, so the way to it leads nowhere
    left
    intro f name
    rw [he true ["."] (by simp), h] at hd
    rw [he f [name] (by simp)]
    rcases hd with hd | hd
    · cases hd
    · rw [show e = .noEntry from hd]
  · -- all walks get to the directory, which is the one that `.` ends at
    right
    rw [hback true ["."] (by simp), walk_dot hn' hdir, h] at hd
    rcases hd with hd | hd
    · cases hd
      exact ⟨b', n, hn', hdir, fun f name => hback f [name] (by simp)⟩
    · exact hd.elim

/-- **After a removal the path leads nowhere.** -/
theorem arrive_without {m m' : Machine} {path : String} (h : m.remove path = .ok m') :
    LeadsNowhere (m'.arrive path) := by
  obtain ⟨-, parent, name, entry, hparent, hlast, hdot, hup, hshort, -, -, hslash, rfl⟩ :=
    remove_ok h
  have hne : parent ++ [name] ≠ [] := by simp
  obtain ⟨n, hw⟩ := parentOf_ok hparent
  unfold arrive
  rw [steps_of_noSlash hslash, namesOf_eq hlast]
  show LeadsNowhere (walk (m.disk.erase (parent ++ [name])) true linkBudget (m.start path) _)
  rcases walk_parent hw (walk_erase m.disk hne true _ _ _) with herr | ⟨b', n', hn', hdir, hstep⟩
  · rw [herr]
    exact rfl
  · -- the last name is looked up in the directory, where it is free now
    have hfree := Disk.node?_erase_self m.disk hne
    rw [hstep, walk_stop hn' hdir (turn_free hshort hdot hup hfree)]
    exact trivial

/-- The entry that a path names: where the path leads, a final link not followed. -/
def entryOf (m : Machine) (path : String) : Except Errno Found :=
  walk m.disk false linkBudget (m.start path) (steps path)

/-- **A removal takes away the entry that the path names**, which is a file or a link if the path led
    to a file. -/
theorem remove_entry {m m' : Machine} {path : String} (h : m.remove path = .ok m')
    (hfile : m.LeadsToFile path) :
    ∃ place entry, m.entryOf path = .ok (.present place entry) ∧ place ≠ [] ∧
      (entry.isFile = true ∨ entry.isLink = true) ∧ m' = m.without place := by
  obtain ⟨-, parent, name, entry, hparent, hlast, hdot, hup, hshort, hentry, -, hslash, rfl⟩ :=
    remove_ok h
  obtain ⟨n, hw⟩ := parentOf_ok hparent
  obtain ⟨place, node, ha, hnode⟩ := hfile
  unfold arrive at ha
  unfold entryOf
  rw [steps_of_noSlash hslash, namesOf_eq hlast] at ha ⊢
  rcases walk_parent hw (Or.inl rfl) with herr | ⟨b, n', hn', hdir, hstep⟩
  · rw [herr] at ha
    cases ha
  rw [hstep] at ha ⊢
  refine ⟨parent ++ [name], entry, ?_, by simp, ?_, rfl⟩
  · have hturn := turn_at hshort hdot hup hentry b false true
    by_cases hlink : entry.isLink = true
    · rw [walk_stop hn' hdir (hturn.1 hlink rfl)]
    · rw [walk_go hn' hdir (hturn.2 (by simpa using hlink)), List.append_nil, walk_arrived hentry]
  · by_cases hlink : entry.isLink = true
    · exact Or.inr hlink
    · have hturn := turn_at hshort hdot hup hentry b true true
      rw [walk_go hn' hdir (hturn.2 (by simpa using hlink)), List.append_nil,
        walk_arrived hentry] at ha
      cases ha
      exact Or.inl hnode

/-! ## §8. A NUL in a path. -/

theorem existing_nul_iff (m : Machine) (call : Call) (path : String) (follow : Bool) :
    m.existing call path follow = .error .nulInPath ↔
      hasNul path = true ∧ m.faultFor? call path = none := by
  rw [← precheck_nul_iff]
  unfold existing walkFrom
  cases hc : m.precheck call path with
  | error e => simp [bind, Except.bind]
  | ok u =>
    cases hw : walk m.disk follow linkBudget (m.start path) (steps path) with
    | error e => simp [bind, Except.bind]
    | ok found => cases found <;>
      simp [bind, Except.bind, pure, Except.pure, throw_eq]

theorem existing_map_nul_iff {α : Type} (m : Machine) (call : Call) (path : String) (follow : Bool)
    (f : Place × Node → α) :
    (m.existing call path follow).map f = .error .nulInPath ↔
      hasNul path = true ∧ m.faultFor? call path = none := by
  rw [← existing_nul_iff m call path follow]
  cases m.existing call path follow <;> simp [Except.map]

theorem stat_nul_iff {m : Machine} {path : String} :
    m.stat path = .error .nulInPath ↔ hasNul path = true ∧ m.faultFor? .stat path = none :=
  existing_map_nul_iff m .stat path true _

theorem chmod_nul_iff {m : Machine} {path : String} {mode : Nat} :
    m.chmod path mode = .error .nulInPath ↔
      hasNul path = true ∧ m.faultFor? .chmod path = none := by
  rw [← existing_map_nul_iff m .chmod path true
    fun r => m.put r.1 { r.2 with mode := mode % 0o10000 }]
  unfold chmod
  cases m.existing .chmod path true <;> rfl

theorem chown_nul_iff {m : Machine} {path : String} {uid gid : Int} :
    m.chown path uid gid = .error .nulInPath ↔
      hasNul path = true ∧ m.faultFor? .chown path = none := by
  rw [← existing_map_nul_iff m .chown path true fun r => m.put r.1 (r.2.giveTo uid gid)]
  unfold chown
  cases m.existing .chown path true <;> rfl

theorem read_nul_iff {m : Machine} {path : String} :
    m.read path = .error .nulInPath ↔ hasNul path = true ∧ m.faultFor? .read path = none := by
  rw [← existing_nul_iff m .read path true]
  unfold read
  cases m.existing .read path true with
  | error e => simp [bind, Except.bind]
  | ok r =>
    obtain ⟨place, kind, mode, uid, gid⟩ := r
    cases kind <;> simp [bind, Except.bind, pure, Except.pure, throw_eq]

theorem parentOf_ne_nul (m : Machine) (path : String) : m.parentOf path ≠ .error .nulInPath := by
  unfold parentOf walkFrom
  cases walk m.disk true linkBudget (m.start path) ((namesOf path).dropLast ++ ["."]) with
  | error e => simp [bind, Except.bind]
  | ok found => cases found <;>
      simp [bind, Except.bind, pure, Except.pure, throw_eq]

theorem create_nul_iff {m : Machine} {path : String} :
    m.create path = .error .nulInPath ↔ hasNul path = true ∧ m.faultFor? .create path = none := by
  rw [← precheck_nul_iff]
  cases hc : m.precheck .create path with
  | error e => simp [create, hc, bind, Except.bind]
  | ok u =>
    simp only [reduceCtorEq, iff_false]
    cases hs : endsWithSlash path with
    | true =>
      have hparent := parentOf_ne_nul m path
      cases hp : m.parentOf path <;> simp_all [create, bind, Except.bind, throw_eq]
    | false =>
      rw [create_eq hc hs]
      match m.arrive path with
      | .error e => simp
      | .ok (.vacant parent name) => simp
      | .ok (.present place node) =>
        obtain ⟨kind, mode, uid, gid⟩ := node
        cases kind <;> simp

theorem remove_nul {m : Machine} {path : String} (h : m.remove path = .error .nulInPath) :
    hasNul path = true := by
  cases hc : m.precheck .remove path with
  | error e =>
    simp only [remove, hc, bind, Except.bind, Except.error.injEq] at h
    subst h
    exact (precheck_nul_iff.mp hc).1
  | ok u =>
    have hparent := parentOf_ne_nul m path
    simp only [remove, hc, bind, Except.bind] at h
    repeat' split at h
    all_goals simp_all [throw_eq, pure, Except.pure]

/-! ## §9. A machine to try things on. -/

/-- A machine with the superuser and an empty disk. -/
def bare : Machine where
  uid := 0
  gid := 0
  umask := 0o022
  cwd := []
  siteVariable := none
  homeVariable := none
  accounts := ⟨[⟨"root", 0, 0, "/root"⟩], [⟨"root", 0⟩]⟩
  disk := ⟨[]⟩
  faults := []

theorem arrive_bare {path name : String} (h : steps path = [name]) (habs : isAbsolute path = true)
    (hshort : name.utf8ByteSize ≤ maxName) (hdot : name ≠ ".") (hup : name ≠ "..") :
    bare.arrive path = .ok (.vacant [] name) := by
  have hfree : bare.disk.node? ([] ++ [name]) = none := rfl
  unfold arrive start
  rw [h, habs]
  exact walk_stop (show bare.disk.node? [] = some .plainDirectory from rfl) rfl
    (turn_free hshort hdot hup hfree)

end Converge.Machine
