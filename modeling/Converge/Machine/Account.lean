/-
  Converge.Machine.Account
  ────────────────────────
  **USERS, GROUPS AND THEIR NUMBERS.**

  The tables are searched from the top: by name or by number, the first matching row answers.
  A name may stand for the number of another row, so going from a name to its number and back may
  give another name.
-/
import Converge.Text.Quoted

namespace Converge.Machine

open Converge.Text

/-- A row of the table of users. -/
structure User where
  /-- The name. -/
  name : String
  /-- The number. -/
  uid : Int
  /-- The number of the primary group. -/
  gid : Int
  /-- The home directory. -/
  home : String
deriving DecidableEq, Repr

/-- A row of the table of groups. -/
structure Group where
  /-- The name. -/
  name : String
  /-- The number. -/
  gid : Int
deriving DecidableEq, Repr

/-- Why a user or group could not be looked up. -/
inductive LookupFailure where
  /-- No user has the name. -/
  | unknownUser (name : String)
  /-- No group has the name. -/
  | unknownGroup (name : String)
  /-- No user has the number. -/
  | namelessUser (uid : Int)
  /-- No group has the number. -/
  | namelessGroup (gid : Int)
  /-- The process runs under a number that no user has. -/
  | noAccount (uid : Int)
  /-- The name holds a NUL, which no name can. -/
  | nulInName
deriving DecidableEq, Repr

/-- What a failed lookup says. -/
def LookupFailure.message : LookupFailure → String
  | .unknownUser name => "usuario desconocido: " ++ quote name
  | .unknownGroup name => "grupo desconocido: " ++ quote name
  | .namelessUser uid => "uid sin usuario: " ++ toString uid
  | .namelessGroup gid => "gid sin grupo: " ++ toString gid
  | .noAccount uid => "getpwuid(): uid not found: " ++ toString uid
  | .nulInName => "embedded null byte"

/-- The two tables. -/
structure Accounts where
  /-- The users. -/
  users : List User
  /-- The groups. -/
  groups : List Group
deriving DecidableEq, Repr

/-- Whether a text holds a NUL. -/
def hasNul (s : String) : Bool := s.toList.contains '\x00'

namespace Accounts

/-- The first user with a name. -/
def userNamed? (a : Accounts) (name : String) : Option User :=
  a.users.find? (·.name == name)

/-- The first user with a number. -/
def userNumbered? (a : Accounts) (uid : Int) : Option User :=
  a.users.find? (·.uid == uid)

/-- The first group with a name. -/
def groupNamed? (a : Accounts) (name : String) : Option Group :=
  a.groups.find? (·.name == name)

/-- The first group with a number. -/
def groupNumbered? (a : Accounts) (gid : Int) : Option Group :=
  a.groups.find? (·.gid == gid)

/-- The number of the user with a name. -/
def userId (a : Accounts) (name : String) : Except LookupFailure Int :=
  if hasNul name then .error .nulInName
  else match a.userNamed? name with
    | some u => .ok u.uid
    | none => .error (.unknownUser name)

/-- The number of the group with a name. -/
def groupId (a : Accounts) (name : String) : Except LookupFailure Int :=
  if hasNul name then .error .nulInName
  else match a.groupNamed? name with
    | some g => .ok g.gid
    | none => .error (.unknownGroup name)

/-- The name of the user with a number. -/
def userName (a : Accounts) (uid : Int) : Except LookupFailure String :=
  match a.userNumbered? uid with
  | some u => .ok u.name
  | none => .error (.namelessUser uid)

/-- The name of the group with a number. -/
def groupName (a : Accounts) (gid : Int) : Except LookupFailure String :=
  match a.groupNumbered? gid with
  | some g => .ok g.name
  | none => .error (.namelessGroup gid)

/-- The name of the user with a number, and the name of that user's primary group. -/
def userAndGroup (a : Accounts) (uid : Int) : Except LookupFailure (String × String) :=
  match a.userNumbered? uid with
  | none => .error (.noAccount uid)
  | some u => (a.groupName u.gid).map fun g => (u.name, g)

end Accounts

end Converge.Machine
