/-
  Converge.Site
  ─────────────
  **THE SITE DIRECTORY AND WHERE SOURCES LIE IN IT.**

  The site is named on the command line or in the environment.  A leading `~` stands for a home
  directory; then links are resolved as far as the path exists, `..` applied after that, and missing
  names kept.  Where links go in a circle the rest of the path is left as it is, and the circle is an
  error if the result runs into it.  Sources lie in the site's `data` directory.
-/
import Converge.Machine.System
import Converge.Path
import Converge.Text.Blank

namespace Converge

open Converge.Text Converge.Machine

namespace Site

/-! ## §1. Home directories. -/

/-- Why there is no site directory. -/
inductive Failure where
  /-- A leading `~` stands for no known directory. -/
  | noHome
  /-- Links go in a circle. -/
  | linkCircle (path : String)
  /-- The path holds a NUL. -/
  | nulInPath
deriving DecidableEq, Repr

/-- What a failure says. -/
def Failure.message : Failure → String
  | .noHome => "Could not determine home directory."
  | .linkCircle path => "Symlink loop from " ++ quote path
  | .nulInPath => "embedded null byte"

/-- A home directory without the slashes at its end; the root if nothing is left. -/
def homeText (home : String) : String :=
  let kept := (home.toList.reverse.dropWhile (· == '/')).reverse
  if kept.isEmpty then "/" else String.ofList kept

/-- The directory that a name starting with `~` stands for. -/
def homeOf (m : Machine) (name : String) : Except Failure String :=
  let user := String.ofList (name.toList.drop 1)
  if user = "" then
    match m.homeVariable with
    | some home => .ok (homeText home)
    | none =>
      match m.accounts.userNumbered? m.uid with
      | some u => .ok (homeText u.home)
      | none => .error .noHome
  else if hasNul user then .error .nulInPath
  else
    match m.accounts.userNamed? user with
    | some u => .ok (homeText u.home)
    | none => .error .noHome

/-- Whether a text starts with a tilde. -/
def startsWithTilde (s : String) : Bool := s.toList.head? == some '~'

/-- Replaces a leading `~` or `~user`. -/
def expandHome (m : Machine) (p : Path) : Except Failure Path :=
  match p.anchor, p.names with
  | .relative, first :: rest =>
    if startsWithTilde first then do
      let home ← homeOf m first
      if startsWithTilde home then throw .noHome
      let h := Path.ofString home
      return ⟨h.anchor, h.names ++ rest⟩
    else return p
  | _, _ => return p

/-! ## §2. Resolving links. -/

/-- A path under way: from the root or from the working directory, with the names so far.  From the
    working directory the names may start with `..`. -/
structure Partial where
  /-- Whether it starts at the root. -/
  absolute : Bool
  /-- The names so far. -/
  names : List String
deriving DecidableEq, Repr

/-- How a path under way is written. -/
def Partial.text (p : Partial) : String :=
  (if p.absolute then "/" else "") ++ "/".intercalate p.names

/-- One step up: past a leading `..` one more is put. -/
def Partial.up (p : Partial) : Partial :=
  match p.names.getLast? with
  | none => if p.absolute then p else { p with names := [".."] }
  | some last =>
    if last = ".." then { p with names := p.names ++ [".."] }
    else { p with names := p.names.dropLast }

/-- One step down. -/
def Partial.down (p : Partial) (name : String) : Partial := { p with names := p.names ++ [name] }

/-- The links met so far: what each led to, or nothing while it is being resolved. -/
abbrev Links := List (Partial × Option Partial)

/-- What is known of a link. -/
def Links.find? (links : Links) (p : Partial) : Option (Option Partial) :=
  match links with
  | [] => none
  | (q, r) :: rest => if q = p then some r else find? rest p

/-- The outcome of resolving: a path, and whether all links in it could be resolved. -/
structure Resolved where
  /-- The path. -/
  path : Partial
  /-- Whether no circle was met. -/
  complete : Bool
  /-- The links met. -/
  links : Links

/-- Adds names that are left as they are. -/
def Partial.append (p : Partial) (names : List String) : Partial :=
  { p with names := p.names ++ names }

/-- The start of a written path: the root, or where we stand. -/
def startOf (p : Partial) (written : String) : Partial :=
  if isAbsolute written then ⟨true, []⟩ else p

/-- Resolves `names` from `p`.  `depth` bounds how many links are resolved within one another; a link
    that is met while it is being resolved itself is a circle, so the number of links suffices. -/
def resolveNames (m : Machine) (depth : Nat) (p : Partial) (links : Links) (names : List String) :
    Except Failure Resolved :=
  match names with
  | [] => .ok ⟨p, true, links⟩
  | name :: rest =>
    if name = "." then resolveNames m depth p links rest
    else if name = ".." then resolveNames m depth p.up links rest
    else
      let next := p.down name
      match m.lstat next.text with
      | .error .nulInPath => .error .nulInPath
      | .error (.system ..) => resolveNames m depth next links rest
      | .ok node =>
        match node.kind with
        | .link target =>
          -- a link met before leads where it led; one still open is a circle
          match links.find? next with
          | some (some r) => resolveNames m depth r links rest
          | some none => .ok ⟨next.append rest, false, links⟩
          | none =>
            match depth with
            | 0 => .ok ⟨next.append rest, false, links⟩
            | depth + 1 => do
              let r ← resolveNames m depth (startOf p target) ((next, none) :: links)
                (namesOf target)
              if r.complete then
                resolveNames m (depth + 1) r.path ((next, some r.path) :: r.links) rest
              else return ⟨r.path.append rest, false, r.links⟩
        | _ => resolveNames m depth next links rest
termination_by (depth, names.length)

/-- Applies `..` to the names before it, without a look at the disk; at the root it does nothing. -/
def collapse (names : List String) : List String :=
  (names.foldl (fun kept name =>
    if name = "." then kept else if name = ".." then kept.drop 1 else name :: kept) []).reverse

/-- A bound on the links that can be under way at once: each link of the disk in every spelling. -/
def resolveDepth (m : Machine) : Nat := (m.disk.entries.length + 1) * (m.cwd.length + 2)

/-- The path with its links resolved, from the root. -/
def resolve (m : Machine) (p : Path) : Except Failure Path := do
  let written := p.toString
  let r ← resolveNames m (resolveDepth m) (startOf ⟨false, []⟩ written) [] (namesOf written)
  let names := if r.path.absolute then r.path.names else m.cwd ++ r.path.names
  let result : Path := ⟨.root, collapse names⟩
  match m.stat result.toString with
  | .error (.system e q) => if e = .tooManyLinks then throw (.linkCircle q) else return result
  | _ => return result

/-! ## §3. The site. -/

/-- The site directory that a written path stands for. -/
def locate (m : Machine) (p : Path) : Except Failure Path := do
  resolve m (← expandHome m p)

/-- The site directory: the one given, else the one in the environment, else none. -/
def root (m : Machine) (given : Option Path) : Except Failure (Option Path) :=
  match given with
  | some p => (locate m p).map some
  | none =>
    let written := trim (m.siteVariable.getD "")
    if written = "" then .ok none else (locate m (Path.ofString written)).map some

/-- The directory of the sources of a site. -/
def dataDirectory (site : Path) : Path := site.join ⟨.relative, ["data"]⟩

end Site

end Converge
