/-
  Converge.Machine.Lookup
  ───────────────────────
  **FROM A PATH TO A PLACE.**

  A path is walked name by name.  Links in the middle are always followed, a link at the end only on
  demand, and at most `linkBudget` of them in one walk.  A trailing slash asks for a directory: it
  counts as one more name, the name of the directory itself.
-/
import Converge.Machine.Disk
import Converge.Machine.Errno

namespace Converge.Machine

/-! ## §1. Names of a path. -/

/-- The parts of a text between the occurrences of a character. -/
def splitOn (sep : Char) : List Char → List (List Char)
  | [] => [[]]
  | c :: cs =>
    if c = sep then [] :: splitOn sep cs
    else match splitOn sep cs with
      | [] => [[c]]
      | w :: ws => (c :: w) :: ws

/-- The names of a path: the parts between its slashes that are not empty. -/
def namesOf (path : String) : List String :=
  ((splitOn '/' path.toList).filter (· ≠ [])).map String.ofList

/-- Whether a path starts at the root. -/
def isAbsolute (path : String) : Bool := path.toList.head? == some '/'

/-- Whether a path ends with a slash. -/
def endsWithSlash (path : String) : Bool := path.toList.getLast? == some '/'

/-- The names to walk: those of the path, and `.` for a trailing slash. -/
def steps (path : String) : List String :=
  let names := namesOf path
  if endsWithSlash path && !names.isEmpty then names ++ ["."] else names

/-! ## §2. The walk. -/

/-- What a walk arrives at. -/
inductive Found where
  /-- A node. -/
  | present (place : Place) (node : Node)
  /-- A name that is free in an existing directory. -/
  | vacant (parent : Place) (name : String)
deriving DecidableEq, Repr

/-- The longest name, in bytes. -/
def maxName : Nat := 255

/-- How many links one walk may follow. -/
def linkBudget : Nat := 40

/-- Walks `todo` from `place`; `follow` says whether a link at the very end is followed. -/
def walk (disk : Disk) (follow : Bool) (budget : Nat) (place : Place) (todo : List String) :
    Except Errno Found :=
  match disk.node? place with
  | none => .error .noEntry
  | some here =>
    match todo with
    | [] => .ok (.present place here)
    | name :: rest =>
      -- every name, `.` and `..` too, is looked up in a directory
      if !here.isDirectory then .error .notDirectory
      else if maxName < name.utf8ByteSize then .error .nameTooLong
      else if name = "." then walk disk follow budget place rest
      else if name = ".." then walk disk follow budget place.dropLast rest
      else
        let child := place ++ [name]
        match disk.node? child with
        | none => if rest.isEmpty then .ok (.vacant place name) else .error .noEntry
        | some node =>
          match node.kind with
          | .link target =>
            if rest.isEmpty && !follow then .ok (.present child node)
            else
              -- the target's names come before the rest, so that `..` is applied where the link leads
              match budget with
              | 0 => .error .tooManyLinks
              | budget + 1 =>
                if target = "" then .error .noEntry
                else
                  walk disk follow budget (if isAbsolute target then [] else place)
                    (steps target ++ rest)
          | _ => walk disk follow budget child rest
termination_by (budget, todo.length)

end Converge.Machine
