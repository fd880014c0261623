/-
  Converge.Machine.Disk
  ─────────────────────
  **FILES, DIRECTORIES AND LINKS, BY PLACE.**

  A place is the list of names that lead to a node from the root.  A disk is seen through `node?`;
  the lemmas say what setting and erasing do at the place itself and elsewhere.
-/

namespace Converge.Machine

/-! ## §1. Nodes. -/

/-- What a node is. -/
inductive NodeKind where
  /-- A regular file with its content. -/
  | file (content : List UInt8)
  /-- A directory. -/
  | directory
  /-- A symbolic link with its target. -/
  | link (target : String)
  /-- A named pipe. -/
  | fifo
  /-- A socket. -/
  | socket
  /-- A character device. -/
  | charDevice
  /-- A block device. -/
  | blockDevice
deriving DecidableEq, Repr

/-- A node: what it is, its permission bits and its owner. -/
structure Node where
  /-- What it is. -/
  kind : NodeKind
  /-- The twelve permission bits. -/
  mode : Nat
  /-- The owner's number. -/
  uid : Int
  /-- The group's number. -/
  gid : Int
deriving DecidableEq, Repr

namespace Node

/-- A directory of the superuser that everyone may read. -/
def plainDirectory : Node := ⟨.directory, 0o755, 0, 0⟩

/-- Whether the node is a directory. -/
def isDirectory (n : Node) : Bool := n.kind == .directory

/-- Whether the node is a regular file. -/
def isFile (n : Node) : Bool :=
  match n.kind with
  | .file _ => true
  | _ => false

/-- The permission bits. -/
def permissions (n : Node) : Nat := n.mode % 0o10000

/-- Gives a node to an owner.  On a regular file this takes away set-user-id, and set-group-id where
    the group may execute. -/
def giveTo (n : Node) (uid gid : Int) : Node :=
  let mode :=
    if n.isFile then
      let mode := n.mode &&& (0o7777 ^^^ 0o4000)
      if mode &&& 0o10 != 0 then mode &&& (0o7777 ^^^ 0o2000) else mode
    else n.mode
  { n with uid := uid, gid := gid, mode := mode }

end Node

/-! ## §2. The disk. -/

/-- The names that lead to a node, from the root. -/
abbrev Place := List String

/-- The nodes of a machine by place.  The root is a directory whether it is listed or not. -/
structure Disk where
  /-- The listed nodes, each place once. -/
  entries : List (Place × Node)
deriving DecidableEq, Repr

namespace Disk

/-- The node at a place of a list. -/
def findIn (place : Place) : List (Place × Node) → Option Node
  | [] => none
  | (p, n) :: rest => if p = place then some n else findIn place rest

/-- The node at a place. -/
def node? (d : Disk) (place : Place) : Option Node :=
  match findIn place d.entries with
  | some n => some n
  | none => if place = [] then some .plainDirectory else none

/-- Sets a place in a list: where it stands, or else at the end. -/
def setIn (place : Place) (node : Node) : List (Place × Node) → List (Place × Node)
  | [] => [(place, node)]
  | (p, n) :: rest => if p = place then (p, node) :: rest else (p, n) :: setIn place node rest

/-- The disk with a node at a place. -/
def set (d : Disk) (place : Place) (node : Node) : Disk := ⟨setIn place node d.entries⟩

/-- The disk without what is at a place. -/
def erase (d : Disk) (place : Place) : Disk := ⟨d.entries.filter (·.1 != place)⟩

/-- The disk without what is at a place and below it. -/
def eraseTree (d : Disk) (place : Place) : Disk :=
  ⟨d.entries.filter fun e => !place.isPrefixOf e.1⟩

/-- The places above a place, the root first and itself left out. -/
def ancestors (place : Place) : List Place :=
  (List.range place.length).map place.take

/-- Makes directories of the missing places above a place. -/
def addParents (d : Disk) (place : Place) : Disk :=
  (ancestors place).foldl
    (fun d p => match d.node? p with
      | some _ => d
      | none => d.set p .plainDirectory) d

/-- Puts a node at a place, in the place of whatever is there and below, with the directories above. -/
def install (d : Disk) (place : Place) (node : Node) : Disk :=
  ((d.eraseTree place).addParents place).set place node

/-- The disk with the given nodes, and directories above them where none is given. -/
def ofList (nodes : List (Place × Node)) : Disk :=
  -- all given nodes first, so that no directory is made where one is given later
  let d := nodes.foldl (fun d e => d.set e.1 e.2) ⟨[]⟩
  nodes.foldl (fun d e => d.addParents e.1) d

/-- The places below the root whose nodes differ between two disks, with the node of the second. -/
def changes (before after : Disk) : List (Place × Option Node) :=
  let gone := before.entries.filterMap fun e =>
    match after.node? e.1 with
    | none => some (e.1, none)
    | some _ => none
  let new := after.entries.filterMap fun e =>
    if before.node? e.1 = some e.2 then none else some (e.1, some e.2)
  (gone ++ new).filter (·.1 != [])

/-! ## §3. What setting and erasing do to the view. -/

theorem findIn_setIn_self (place : Place) (node : Node) (l : List (Place × Node)) :
    findIn place (setIn place node l) = some node := by
  induction l with
  | nil => simp [setIn, findIn]
  | cons e rest ih =>
    by_cases h : e.1 = place
    · simp [setIn, findIn, h]
    · simp [setIn, findIn, h, ih]

theorem findIn_setIn_of_ne {place q : Place} (h : q ≠ place) (node : Node)
    (l : List (Place × Node)) : findIn q (setIn place node l) = findIn q l := by
  induction l with
  | nil => simp [setIn, findIn, h.symm]
  | cons e rest ih =>
    by_cases he : e.1 = place
    · have : e.1 ≠ q := by rw [he]; exact h.symm
      simp [setIn, findIn, he, h.symm]
    · simp [setIn, findIn, he, ih]

/-- At the place itself the new node is seen. -/
@[simp] theorem node?_set_self (d : Disk) (place : Place) (node : Node) :
    (d.set place node).node? place = some node := by
  simp [node?, set, findIn_setIn_self]

/-- Elsewhere nothing changes. -/
theorem node?_set_of_ne (d : Disk) {place q : Place} (h : q ≠ place) (node : Node) :
    (d.set place node).node? q = d.node? q := by
  simp [node?, set, findIn_setIn_of_ne h]

theorem setIn_setIn (place : Place) (a b : Node) (l : List (Place × Node)) :
    setIn place b (setIn place a l) = setIn place b l := by
  induction l with
  | nil => simp [setIn]
  | cons e rest ih =>
    by_cases h : e.1 = place
    · simp [setIn, h]
    · simp [setIn, h, ih]

/-- Of two nodes set at one place the second stays. -/
@[simp] theorem set_set (d : Disk) (place : Place) (a b : Node) :
    (d.set place a).set place b = d.set place b := by
  simp [set, setIn_setIn]

theorem setIn_of_findIn {place : Place} {node : Node} {l : List (Place × Node)}
    (h : findIn place l = some node) : setIn place node l = l := by
  induction l with
  | nil => cases h
  | cons e rest ih =>
    by_cases he : e.1 = place
    · simp only [findIn, he, if_true, Option.some.injEq] at h
      simp [setIn, ← h, ← he]
    · simp only [findIn, he, if_false] at h
      simp [setIn, he, ih h]

/-- Setting what is there changes nothing.  The root may be there without being listed, but then it is
    a directory. -/
theorem set_of_node? {d : Disk} {place : Place} {node : Node} (h : d.node? place = some node)
    (hdir : node.isDirectory = false) : d.set place node = d := by
  have hlisted : findIn place d.entries = some node := by
    unfold node? at h
    split at h
    · cases h
      assumption
    · split at h
      · cases h
        cases hdir
      · cases h
  simp [set, setIn_of_findIn hlisted]

theorem findIn_filter_self (place : Place) (l : List (Place × Node)) :
    findIn place (l.filter (·.1 != place)) = none := by
  induction l with
  | nil => rfl
  | cons e rest ih =>
    by_cases h : e.1 = place
    · simp [h, ih]
    · simp [h, findIn, ih]

theorem findIn_filter_of_ne {place q : Place} (h : q ≠ place) (l : List (Place × Node)) :
    findIn q (l.filter (·.1 != place)) = findIn q l := by
  induction l with
  | nil => rfl
  | cons e rest ih =>
    by_cases he : e.1 = place
    · have : e.1 ≠ q := by rw [he]; exact h.symm
      simp [findIn, he, h.symm, ih]
    · by_cases hq : e.1 = q
      · have hqp : q ≠ place := h
        simp [findIn, hq, hqp]
      · simp [findIn, he, hq, ih]

/-- An erased place below the root is vacant. -/
theorem node?_erase_self (d : Disk) {place : Place} (h : place ≠ []) :
    (d.erase place).node? place = none := by
  simp [node?, erase, findIn_filter_self, h]

/-- Elsewhere nothing changes. -/
theorem node?_erase_of_ne (d : Disk) {place q : Place} (h : q ≠ place) :
    (d.erase place).node? q = d.node? q := by
  simp [node?, erase, findIn_filter_of_ne h]

end Disk

end Converge.Machine
