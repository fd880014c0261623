/-
  Converge.Checksum
  ─────────────────
  **COMPARING CONTENTS BY DIGEST.**

  A file is read in pieces, so its digest does not need the whole of it at once.  Two files are
  taken to differ in content exactly when their digests do; the source is read first.
-/
import Converge.Digest.Md5
import Converge.Machine.System
import Converge.Text.Quoted

namespace Converge.Checksum

open Converge.Text Converge.Machine

/-- How many bytes are read at a time. -/
def pieceSize : Nat := 64 * 1024

/-- The hexadecimal text of bytes. -/
def hexText (bytes : List UInt8) : String :=
  String.ofList (bytes.flatMap fun b => hexDigits 2 b.toNat)

/-- The digest of a content. -/
def ofContent (content : List UInt8) : String :=
  hexText (Digest.Md5.digestInPieces pieceSize content)

/-- The digest of the file at a path. -/
def ofFile (m : Machine) (path : String) : Except CallFailure String :=
  (m.read path).map ofContent

/-- Whether two files differ in content. -/
def contentChanged (m : Machine) (destination source : String) : Except CallFailure Bool := do
  let s ← ofFile m source
  let d ← ofFile m destination
  return s != d

end Converge.Checksum
