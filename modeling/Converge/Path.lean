/-
  Converge.Path
  ─────────────
  **PATHS AS TEXT, WITHOUT A LOOK AT THE DISK.**

  A path is an anchor and a list of names; `.` and empty names are dropped, `..` is kept, since what
  it means depends on links.  A path that starts with exactly two slashes keeps both.  Joining to an
  anchored path gives that path alone.
-/
import Converge.Machine.Lookup

namespace Converge

/-- Where a path starts. -/
inductive Anchor where
  /-- At the working directory. -/
  | relative
  /-- At the root. -/
  | root
  /-- At the root, written with two slashes. -/
  | doubleRoot
deriving DecidableEq, Repr

/-- How an anchor is written. -/
def Anchor.text : Anchor → String
  | .relative => ""
  | .root => "/"
  | .doubleRoot => "//"

/-- A path in normal form. -/
structure Path where
  /-- Where it starts. -/
  anchor : Anchor
  /-- Its names. -/
  names : List String
deriving DecidableEq, Repr

namespace Path

/-- The anchor of a written path: two slashes stay two, one or more than two are one. -/
def anchorOf (s : String) : Anchor :=
  match s.toList with
  | '/' :: '/' :: '/' :: _ => .root
  | '/' :: '/' :: _ => .doubleRoot
  | '/' :: _ => .root
  | _ => .relative

/-- The normal form of a written path. -/
def ofString (s : String) : Path := ⟨anchorOf s, (Machine.namesOf s).filter (· ≠ ".")⟩

/-- How a path is written; the empty relative path is the working directory itself. -/
def toString (p : Path) : String :=
  if p.anchor = .relative ∧ p.names = [] then "."
  else p.anchor.text ++ "/".intercalate p.names

/-- The second path seen from the first. -/
def join (p q : Path) : Path :=
  if q.anchor = .relative then ⟨p.anchor, p.names ++ q.names⟩ else q

/-- A relative path extends the names. -/
theorem join_relative (p : Path) (names : List String) :
    p.join ⟨.relative, names⟩ = ⟨p.anchor, p.names ++ names⟩ := by
  simp [join]

/-- Normal forms hold no `.`. -/
theorem dot_not_mem_ofString (s : String) : "." ∉ (ofString s).names := by
  simp [ofString]

end Path

end Converge
