/-
  Converge.Machine.Listing
  ────────────────────────
  **A MACHINE AS ITS OWN TABLES AND A LISTING OF ITS FILES TELL IT.**

  Tables are texts with one row a line and fields between separators; a line that is no row is left
  out.  Users and groups have colons, the nodes of a disk have tabs:
  kind letter, permissions in octal, owner, group, path, target of a link.
-/
import Converge.Machine.Account
import Converge.Number.Numeral
import Converge.Site

namespace Converge.Machine

open Converge.Number

/-! ## §1. Rows and fields. -/

/-- The fields of a row. -/
def fieldsOf (separator : Char) (row : String) : List String :=
  (splitOn separator row.toList).map String.ofList

/-- The rows of a table. -/
def rowsOf (table : String) : List String := fieldsOf '\n' table

/-- A number of an account, in decimal. -/
def accountNumber? (s : String) : Option Int := (digits? 10 s.toList).map Int.ofNat

/-! ## §2. Accounts and the process. -/

/-- A user: name, password, number, number of the primary group, remarks, home, shell. -/
def User.ofRow? (row : String) : Option User :=
  match fieldsOf ':' row with
  | name :: _ :: uid :: gid :: _ :: home :: _ => do
    return ⟨name, ← accountNumber? uid, ← accountNumber? gid, home⟩
  | _ => none

/-- A group: name, password, number, members. -/
def Group.ofRow? (row : String) : Option Group :=
  match fieldsOf ':' row with
  | name :: _ :: gid :: _ => do return ⟨name, ← accountNumber? gid⟩
  | _ => none

/-- The accounts that two tables list. -/
def Accounts.ofTables (users groups : String) : Accounts :=
  ⟨(rowsOf users).filterMap User.ofRow?, (rowsOf groups).filterMap Group.ofRow?⟩

/-- The first value of a key in the status table of a process. -/
def statusValue? (status key : String) : Option String :=
  (rowsOf status).findSome? fun row =>
    match fieldsOf '\t' row with
    | k :: value :: _ => if k = key ++ ":" then some value else none
    | _ => none

/-! ## §3. Nodes. -/

/-- The kind of a node by its letter.  A listed file is empty until it is read. -/
def NodeKind.ofLetter? (letter target : String) : Option NodeKind :=
  match letter with
  | "f" => some (.file [])
  | "d" => some .directory
  | "l" => some (.link target)
  | "p" => some .fifo
  | "s" => some .socket
  | "c" => some .charDevice
  | "b" => some .blockDevice
  | _ => none

/-- A node with its path. -/
def Node.ofRow? (row : String) : Option (String × Node) :=
  match fieldsOf '\t' row with
  | letter :: mode :: uid :: gid :: path :: rest => do
    let kind ← NodeKind.ofLetter? letter (rest.headD "")
    return (path, ⟨kind, ← digits? 8 mode.toList, ← accountNumber? uid, ← accountNumber? gid⟩)
  | _ => none

/-- The place that a listed path names, seen from a directory. -/
def placeFrom (cwd : Place) (path : String) : Place :=
  Site.collapse ((if isAbsolute path then [] else cwd) ++ namesOf path)

end Converge.Machine
