/-
  Converge.FileResource.Basic
  ───────────────────────────
  **A FILE AS IT IS DECLARED.**

  A resource is built from a title and a declaration over defaults: the title is the path, the mode is
  0644, owner and group are those of the process, there is no source and the file should exist.
-/
import Converge.Declaration.Basic
import Converge.Session

namespace Converge

open Converge.Machine

/-- What holds for a whole run. -/
structure Options where
  /-- Whether steps are only shown. -/
  dryRun : Bool := false
  /-- The site, where sources lie. -/
  site : Option Path := none

/-- A file with its declared attributes. -/
structure FileResource where
  /-- The title, which names it. -/
  title : String
  /-- Where it is. -/
  path : String
  /-- Its permission bits. -/
  mode : Int := 0o644
  /-- Its owner. -/
  owner : String := ""
  /-- Its group. -/
  group : String := ""
  /-- Where its content comes from, below the site's data. -/
  source : Option String := none
  /-- Whether it should exist. -/
  want : Existence := .present
deriving DecidableEq, Repr

namespace FileResource

/-- The name of this kind of resource. -/
def kind : String := "file"

/-- What this kind of resource does. -/
def description : String := "gestiona archivos"

/-- The name of a resource: its kind and title. -/
def idOf (title : String) : String := kind ++ "[" ++ title ++ "]"

/-- The name of a resource: its kind and title. -/
def id (r : FileResource) : String := idOf r.title

/-- A resource as a literal. -/
def literal (r : FileResource) : String := "<FileResource " ++ r.id ++ ">"

/-- The state before anything has been looked at. -/
def newState (r : FileResource) : State := ⟨.unknown, r.want, false, []⟩

/-! ## §1. Construction. -/

/-- The mode of a resource that declares none. -/
def defaultMode : Int := 0o644

/-- A failed lookup while a resource is at work.  A NUL in a name is no failure to find it. -/
def lookupFailure (id : String) : LookupFailure → Failure
  | .nulInName => .lookup .nulInName
  | cause => .resource id (.identity cause)

/-- The resource that a declaration describes, over the defaults of a process. -/
def ofDeclaration (title owner group : String) (d : Declaration) : FileResource where
  title := title
  path := d.path.getD title
  mode := d.mode.getD defaultMode
  owner := d.owner.getD owner
  group := d.group.getD group
  source := d.source.value?
  want := d.state.getD .present

/-- Builds a resource on a machine.  The process must have a user and group; then the declaration is
    read; an empty path is refused. -/
def build (m : Machine) (title : String) (data : Value) : Except Failure FileResource := do
  let id := idOf title
  let (owner, group) ← m.currentUserAndGroup.mapError (lookupFailure id)
  let d ← Declaration.read .file id data
  let r := ofDeclaration title owner group d
  if r.path = "" then throw (.declaration id .emptyPath)
  return r

/-! ## §2. The source. -/

/-- Where the source is.  An empty source is none; any other needs a site. -/
def sourcePath (r : FileResource) (o : Options) : Except Failure (Option Path) :=
  match r.source with
  | none => .ok none
  | some source =>
    if source = "" then .ok none
    else
      match o.site with
      | none => .error (.config (.noSite r.id source))
      | some site => .ok (some ((Site.dataDirectory site).join (Path.ofString source)))

end FileResource

end Converge
