/-
  Converge.FileResource.Evaluate
  ──────────────────────────────
  **COMPARING A FILE WITH ITS DECLARATION.**

  Nothing here changes the machine: every function takes it and gives an answer or a failure.  The
  comparisons are made in one order (mode, owner, content), whatever is wanted of the file, and each
  finds at most one difference.
-/
import Converge.Checksum
import Converge.FileResource.Basic

namespace Converge

open Converge.Machine Converge.Number

namespace FileResource

/-! ## §1. Attributes. -/

/-- Whether the permission bits differ from a mode. -/
def permissionsChanged (n : Node) (mode : Int) : Bool := (n.permissions : Int) != mode

/-- The names of a node's owner and group. -/
def fileOwner (a : Accounts) (n : Node) : Except LookupFailure (String × String) := do
  let user ← a.userName n.uid
  let group ← a.groupName n.gid
  return (user, group)

/-- Whether the names of a node's owner and group differ from the given ones, which must exist. -/
def ownerChanged (a : Accounts) (n : Node) (owner group : String) : Except LookupFailure Bool := do
  -- both names are looked up before they are compared
  let _ ← a.userId owner
  let _ ← a.groupId group
  let (user, actualGroup) ← fileOwner a n
  return user != owner || actualGroup != group

/-- A mode in four octal digits. -/
def modeText (mode : Int) : String := octalText 4 mode

/-- The owner and group in one text. -/
def ownerText (owner group : String) : String := owner ++ ":" ++ group

/-! ## §2. Differences. -/

/-- A failed reading while contents are compared.  A NUL in a path is no failure to read. -/
def readFailure (id : String) : CallFailure → Failure
  | .nulInPath => .call .nulInPath
  | .system errno path => .resource id (.checksum errno path)

/-- The difference in permission bits. -/
def modeDifference (r : FileResource) (n : Node) : Option Difference :=
  if permissionsChanged n r.mode then
    some ⟨r.id, "mode", .text (modeText r.mode), .text (modeText n.permissions), Difference.warning⟩
  else none

/-- The difference in owner and group. -/
def ownerDifference (r : FileResource) (n : Node) (m : Machine) :
    Except Failure (Option Difference) :=
  (do
    if ← ownerChanged m.accounts n r.owner r.group then
      let (user, group) ← fileOwner m.accounts n
      return some ⟨r.id, "owner", .text (ownerText r.owner r.group), .text (ownerText user group),
        Difference.warning⟩
    else return none : Except LookupFailure (Option Difference)).mapError (lookupFailure r.id)

/-- The difference in content. -/
def contentDifference (r : FileResource) (o : Options) (m : Machine) :
    Except Failure (Option Difference) := do
  match ← r.sourcePath o with
  | none => return none
  | some source =>
    let changed ← (Checksum.contentChanged m (Path.ofString r.path).toString
      source.toString).mapError (readFailure r.id)
    if changed then
      return some ⟨r.id, "content", .text source.toString, .text r.path, Difference.info⟩
    else return none

/-! ## §3. The whole comparison. -/

/-- Whether a failed status means that nothing is there. -/
def meansAbsent : CallFailure → Bool
  | .system e _ => e == .noEntry || e == .notDirectory
  | .nulInPath => false

/-- Compares the file at the path with the declaration. -/
def evaluate (r : FileResource) (o : Options) (m : Machine) : Except Failure State :=
  match m.stat r.path with
  | .error e => if meansAbsent e then .ok (.ofAbsent r.want) else .error (.call e)
  | .ok n =>
    if !n.isFile then .error (.resource r.id (.notAFile r.path (some (.ofPresent r.want []))))
    else do
      -- owner before content: of two failures the first is reported
      let owner ← r.ownerDifference n m
      let content ← r.contentDifference o m
      return .ofPresent r.want ((r.modeDifference n).toList ++ owner.toList ++ content.toList)

/-- The node at the path, which must be a regular file. -/
def regularFile (r : FileResource) (m : Machine) : Except Failure Node :=
  match m.stat r.path with
  | .error e => .error (.call e)
  | .ok n => if n.isFile then .ok n else .error (.resource r.id (.notAFile r.path none))

/-- The numbers of the declared owner and group. -/
def ownerIds (r : FileResource) (m : Machine) : Except Failure (Int × Int) :=
  (do
    let uid ← m.accounts.userId r.owner
    let gid ← m.accounts.groupId r.group
    return (uid, gid) : Except LookupFailure (Int × Int)).mapError (lookupFailure r.id)

/-- A state that is returned wants what is declared. -/
theorem want_of_evaluate {r : FileResource} {o : Options} {m : Machine} {s : State}
    (h : r.evaluate o m = .ok s) : s.want = r.want := by
  unfold evaluate at h
  split at h
  · split at h
    · cases h; rfl
    · cases h
  · split at h
    · cases h
    · simp only [bind, Except.bind] at h
      split at h
      · cases h
      · split at h
        · cases h
        · cases h; rfl

end FileResource

end Converge
