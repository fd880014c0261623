/-
  Converge.Main
  ─────────────
  **THE COMMAND.**

  A run works on an image of the machine; when it has ended, what it did to the image is done to the
  machine, and what it printed is shown.  Accounts, directories in the environment and the numbers of
  the process are taken from the system.  Permissions and owners of files cannot be asked for from
  here, so a listing of the files that matter, the manifest among them, comes on standard input:

      find /etc/app site.yaml -printf '%y\t%m\t%U\t%G\t%p\t%l\n' | converge apply site.yaml

  A file that is not listed counts as missing.  Owners cannot be set from here either: a run that
  would set one ends before anything is done.
-/
import Converge.CommandLine.Parse
import Converge.CommandLine.Run
import Converge.Machine.Listing

namespace Converge

open Converge.Machine

/-! ## §1. The image. -/

/-- A listed node with its place; a regular file is read. -/
def readNode (cwd : Place) (listed : String × Node) : IO (Place × Node) := do
  let (path, node) := listed
  let node ← if node.isFile then do
      let content ← IO.FS.readBinFile path
      pure { node with kind := .file content.toList }
    else pure node
  return (placeFrom cwd path, node)

/-- The image of the machine with the listed files. -/
def image (listing : String) : IO Machine := do
  let status ← IO.FS.readFile "/proc/self/status"
  let number (key : String) (base : Nat) : Nat :=
    ((statusValue? status key).bind fun v => Number.digits? base v.toList).getD 0
  let cwd := namesOf (← IO.currentDir).toString
  let nodes ← ((rowsOf listing).filterMap Node.ofRow?).mapM (readNode cwd)
  return {
    uid := number "Uid" 10
    gid := number "Gid" 10
    umask := number "Umask" 8
    cwd := cwd
    siteVariable := ← IO.getEnv "FORJA_SITE_DIR"
    homeVariable := ← IO.getEnv "HOME"
    accounts := .ofTables (← IO.FS.readFile "/etc/passwd") (← IO.FS.readFile "/etc/group")
    disk := .ofList nodes
    faults := [] }

/-! ## §2. Carrying out. -/

/-- The owner that a changed node had, or gets when it is created. -/
def formerOwner (before : Machine) (place : Place) : Int × Int :=
  match before.disk.node? place with
  | some node => (node.uid, node.gid)
  | none => (before.uid, before.gid)

/-- Does to the machine what a run did to its image. -/
def carryOut (before after : Machine) : IO Unit := do
  let changes := Disk.changes before.disk after.disk
  for (place, node) in changes do
    if let some node := node then
      if formerOwner before place ≠ (node.uid, node.gid) then
        throw (IO.userError ("cannot set the owner of " ++ Path.toString ⟨.root, place⟩))
  for (place, node) in changes do
    let path := Path.toString ⟨.root, place⟩
    match node with
    | none => IO.FS.removeFile path
    | some node =>
      if (before.disk.node? place).isNone then
        let _ ← IO.FS.Handle.mk path .append
      IO.Prim.setAccessRights path node.mode.toUInt32

/-! ## §3. The command. -/

/-- Shows what was printed: a table as lines with tabs between its cells. -/
def display (p : Printed) : IO Unit :=
  match p with
  | .line text => IO.println text
  | .panel text => IO.println text
  | .table t => do
    IO.println t.title
    for row in t.columns :: t.rows do
      IO.println ("\t".intercalate row)

/-- Does what is asked for, on the machine. -/
def serve (request : Request) : IO UInt32 := do
  let listing ← match request with
    | .plan .. | .apply .. => IO.FS.readFile "/dev/stdin"
    | .kinds | .version => pure ""
  let before ← image listing
  let (result, session) := (CommandLine.run Registry.standard request).perform ⟨before, []⟩
  carryOut before session.machine
  for entry in session.transcript do
    display entry.printed
  match result with
  | .ok code => return code.toUInt32
  | .error failure => do
    IO.eprintln failure.message
    return CommandLine.failure.toUInt32

end Converge

/-- Reads the command line and does what it asks for; a command line that is none ends with code 2. -/
def main (words : List String) : IO UInt32 :=
  match Converge.CommandLine.parse words with
  | .ok request => Converge.serve request
  | .error fault => do
    IO.eprintln fault.message
    return 2
