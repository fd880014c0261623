/-
  Converge.FileResource.Steps
  ───────────────────────────
  **CREATING, MENDING AND DELETING A FILE.**

  Each step is printed before it is taken, and in a dry run it is printed and not taken.  Creating
  opens the file, then sets its owner, then its mode; mending sets the mode before the owner and only
  what differs; a difference in content is reported and left alone.
-/
import Converge.FileResource.Evaluate

namespace Converge

open Converge.Machine

namespace FileResource

/-- Prints a step. -/
def progress (r : FileResource) (o : Options) (message : String) : Act Unit :=
  Act.say (.progress o.dryRun r.id message)

/-- Takes a step, unless the run is dry. -/
def take (o : Options) (f : Machine → Except CallFailure Machine) : Act Unit :=
  if o.dryRun then pure () else Act.change f

/-- Says which owner is set. -/
def ownerMessage (r : FileResource) : String :=
  "estableciendo propietario " ++ ownerText r.owner r.group

/-- Says which mode is set. -/
def modeMessage (r : FileResource) : String := "estableciendo permisos a " ++ modeText r.mode

/-- Creates the file with its attributes. -/
def create (r : FileResource) (o : Options) : Act Unit := do
  let (uid, gid) ← Act.observe r.ownerIds
  r.progress o "creando archivo"
  take o (·.create r.path)
  r.progress o r.ownerMessage
  take o (·.chown r.path uid gid)
  -- the mode comes last, since a change of owner takes bits away
  r.progress o r.modeMessage
  take o (·.chmod r.path r.mode.toNat)

/-- Sets the attributes that differ. -/
def update (r : FileResource) (o : Options) : Act Unit := do
  let node ← Act.observe r.regularFile
  if (r.modeDifference node).isSome then
    r.progress o r.modeMessage
    take o (·.chmod r.path r.mode.toNat)
  -- `node` is the node from before the mode was set
  let owner ← Act.observe (r.ownerDifference node)
  if owner.isSome then
    let (uid, gid) ← Act.observe r.ownerIds
    r.progress o r.ownerMessage
    take o (·.chown r.path uid gid)
  match ← Act.observe (r.contentDifference o) with
  | none => return ()
  | some d => r.progress o ("el contenido difiere de " ++ d.desired.plain ++ "; no se sincroniza")

/-- Deletes the file; if nothing is there, nothing is done. -/
def delete (r : FileResource) (o : Options) : Act Unit := do
  if ← Act.observe fun m => .ok (m.isThere r.path) then
    r.progress o "eliminando archivo"
    take o (·.remove r.path)

end FileResource

end Converge
