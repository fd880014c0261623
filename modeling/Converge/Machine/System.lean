/-
  Converge.Machine.System
  ───────────────────────
  **THE MACHINE AND ITS SYSTEM CALLS.**

  A machine is a disk with accounts, a process that owns what it creates, and a list of faults: a
  call fails with a fault's error when it is handed exactly the fault's path, before anything else
  is looked at.  Reading calls give an answer; `create`, `chmod`, `chown` and `remove` give the
  machine after the call, which differs from the one before in its disk alone.
-/
import Converge.Machine.Account
import Converge.Machine.Lookup

namespace Converge.Machine

open Converge.Text

/-! ## §1. Faults and errors. -/

/-- The calls that can be made to fail. -/
inductive Call where
  /-- Status through a final link. -/
  | stat
  /-- Status of a final link itself. -/
  | lstat
  /-- Opening for appending, which creates. -/
  | create
  /-- Opening for reading. -/
  | read
  /-- Changing permissions. -/
  | chmod
  /-- Changing the owner. -/
  | chown
  /-- Removing a name. -/
  | remove
deriving DecidableEq, Repr

/-- A call on a path that fails. -/
structure Fault where
  /-- The call. -/
  call : Call
  /-- The path, as handed to the call. -/
  path : String
  /-- What it fails with. -/
  errno : Errno
deriving DecidableEq, Repr

/-- Why a call on a path fails. -/
inductive CallFailure where
  /-- The system refuses. -/
  | system (errno : Errno) (path : String)
  /-- The path holds a NUL, so that no call is made. -/
  | nulInPath
deriving DecidableEq, Repr

/-- What a failed call says. -/
def CallFailure.message : CallFailure → String
  | .system errno path =>
    "[Errno " ++ toString errno.code ++ "] " ++ errno.text ++ ": " ++ quote path
  | .nulInPath => "embedded null byte"

end Machine

/-- A machine as one process sees it. -/
structure Machine where
  /-- The user of the process. -/
  uid : Int
  /-- The group of the process. -/
  gid : Int
  /-- The permission bits that new files do not get. -/
  umask : Nat
  /-- Where relative paths start. -/
  cwd : Machine.Place
  /-- The site directory in the environment, if set. -/
  siteVariable : Option String
  /-- The home directory in the environment, if set. -/
  homeVariable : Option String
  /-- Users and groups. -/
  accounts : Machine.Accounts
  /-- The files. -/
  disk : Machine.Disk
  /-- The calls that fail. -/
  faults : List Machine.Fault
deriving Repr

namespace Machine

/-! ## §2. From a path to a node. -/

/-- The longest path, in bytes, plus one. -/
def pathLimit : Nat := 4096

/-- The fault that meets a call on a path. -/
def faultFor? (m : Machine) (call : Call) (path : String) : Option Errno :=
  (m.faults.find? fun f => f.call == call && f.path == path).map (·.errno)

/-- Checks what is checked before a path is walked. -/
def precheck (m : Machine) (call : Call) (path : String) : Except CallFailure Unit :=
  match m.faultFor? call path with
  | some e => .error (.system e path)
  | none =>
    if hasNul path then .error .nulInPath
    else if path = "" then .error (.system .noEntry path)
    else if pathLimit ≤ path.utf8ByteSize then .error (.system .nameTooLong path)
    else .ok ()

/-- The place that a path starts from. -/
def start (m : Machine) (path : String) : Place := if isAbsolute path then [] else m.cwd

/-- Walks the given names from where the path starts; errors name the path. -/
def walkFrom (m : Machine) (path : String) (follow : Bool) (names : List String) :
    Except CallFailure Found :=
  (walk m.disk follow linkBudget (m.start path) names).mapError (.system · path)

/-- The place and node that a call on an existing path is about. -/
def existing (m : Machine) (call : Call) (path : String) (follow : Bool) :
    Except CallFailure (Place × Node) := do
  m.precheck call path
  match ← m.walkFrom path follow (steps path) with
  | .present place node => return (place, node)
  | .vacant .. => throw (.system .noEntry path)

/-- The directory that holds the last name of a path. -/
def parentOf (m : Machine) (path : String) : Except CallFailure Place := do
  match ← m.walkFrom path true ((namesOf path).dropLast ++ ["."]) with
  | .present place _ => return place
  | .vacant .. => throw (.system .noEntry path)

/-! ## §3. Calls that read. -/

/-- The node at a path, a final link followed. -/
def stat (m : Machine) (path : String) : Except CallFailure Node :=
  (m.existing .stat path true).map (·.2)

/-- The node at a path, a final link not followed. -/
def lstat (m : Machine) (path : String) : Except CallFailure Node :=
  (m.existing .lstat path false).map (·.2)

/-- Whether there is anything at a path, be it a link that leads nowhere. -/
def isThere (m : Machine) (path : String) : Bool :=
  match m.lstat path with
  | .ok _ => true
  | .error _ => false

/-- Whether a path leads somewhere.  Errors that mean that it does not are an answer. -/
def leadsSomewhere (m : Machine) (path : String) : Except CallFailure Bool :=
  match m.stat path with
  | .ok _ => .ok true
  | .error .nulInPath => .ok false
  | .error (.system e p) =>
    if e = .noEntry ∨ e = .notDirectory ∨ e = .badDescriptor ∨ e = .tooManyLinks then .ok false
    else .error (.system e p)

/-- The content of a regular file. -/
def read (m : Machine) (path : String) : Except CallFailure (List UInt8) := do
  let (_, node) ← m.existing .read path true
  match node.kind with
  | .file content => return content
  | .directory => throw (.system .isDirectory path)
  | _ => throw (.system .noDevice path)

/-! ## §4. Calls that change the disk. -/

/-- The node of a file that the process creates. -/
def newFile (m : Machine) : Node :=
  ⟨.file [], 0o666 &&& (0o7777 ^^^ (m.umask % 0o10000)), m.uid, m.gid⟩

/-- Opens for appending: an existing file stays as it is, a missing one is created. -/
def create (m : Machine) (path : String) : Except CallFailure Machine := do
  m.precheck .create path
  -- what is wrong with the way there comes before the slash at the end
  if endsWithSlash path then
    let _ ← m.parentOf path
    throw (.system .isDirectory path)
  match ← m.walkFrom path true (steps path) with
  | .vacant parent name => return { m with disk := m.disk.set (parent ++ [name]) m.newFile }
  | .present _ node =>
    match node.kind with
    | .file _ => return m
    | .directory => throw (.system .isDirectory path)
    | _ => throw (.system .noDevice path)

/-- Sets the permission bits of the node that a path leads to. -/
def chmod (m : Machine) (path : String) (mode : Nat) : Except CallFailure Machine := do
  let (place, node) ← m.existing .chmod path true
  return { m with disk := m.disk.set place { node with mode := mode % 0o10000 } }

/-- Gives the node that a path leads to an owner. -/
def chown (m : Machine) (path : String) (uid gid : Int) : Except CallFailure Machine := do
  let (place, node) ← m.existing .chown path true
  return { m with disk := m.disk.set place (node.giveTo uid gid) }

/-- Removes the last name of a path, a link itself if it is one. -/
def remove (m : Machine) (path : String) : Except CallFailure Machine := do
  m.precheck .remove path
  match (namesOf path).getLast? with
  | none => throw (.system .isDirectory path)
  | some name =>
    let parent ← m.parentOf path
    -- the parent is there: now the last name is judged, as written and before it is looked up
    if name = "." ∨ name = ".." then throw (.system .isDirectory path)
    if maxName < name.utf8ByteSize then throw (.system .nameTooLong path)
    let place := parent ++ [name]
    match m.disk.node? place with
    | none => throw (.system .noEntry path)
    | some node =>
      if node.isDirectory then throw (.system .isDirectory path)
      if endsWithSlash path then throw (.system .notDirectory path)
      return { m with disk := m.disk.erase place }

/-- The names of the process: its user, and that user's primary group. -/
def currentUserAndGroup (m : Machine) : Except LookupFailure (String × String) :=
  m.accounts.userAndGroup m.uid

end Machine

end Converge
