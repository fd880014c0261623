/-
  Converge.Manifest.Load
  ──────────────────────
  **FROM A PATH TO RESOURCES.**

  A manifest is found, read, decoded and parsed, and its entries are built in order; the first failure
  on the way is the failure of it all.
-/
import Converge.Manifest.Entry
import Converge.Path
import Converge.Registry
import Converge.Yaml.Graph.Value

namespace Converge.Manifest

open Converge.Text

/-- The failure that a fault of a document is. -/
def documentFailure (path : String) : Yaml.Fault → Failure
  | .malformed => .config (.manifestMalformed path)
  | .scalar cause => .scalar cause

/-- The text of a manifest. -/
def content (m : Machine) (path : String) : Except Failure (List Char) := do
  -- a path that leads nowhere is reported before anything is opened
  if ← (m.leadsSomewhere path).mapError .call then
    let bytes ← (m.read path).mapError .call
    (Utf8.decode bytes).mapError .undecodable
  else throw (.config (.manifestMissing path))

/-- The entries of the manifest at a path. -/
def read (m : Machine) (p : Path) : Except Failure (List ManifestEntry) := do
  let path := p.toString
  let text ← content m path
  let data ← (Yaml.read text).mapError (documentFailure path)
  parseEntries data path

/-- Builds the resources of entries, in order. -/
def build (r : Registry) (m : Machine) (entries : List ManifestEntry) :
    Except Failure (List FileResource) :=
  entries.mapM fun e => r.build m e.kind e.title (.mapping e.declaration)

/-- The resources of the manifest at a path. -/
def load (r : Registry) (m : Machine) (p : Path) : Except Failure (List FileResource) := do
  build r m (← read m p)

theorem content_of_missing {m : Machine} {path : String} (h : m.leadsSomewhere path = .ok false) :
    content m path = .error (.config (.manifestMissing path)) := by
  unfold content
  rw [h]
  rfl

/-- A path that leads nowhere holds no manifest, whatever else is wrong. -/
theorem read_of_missing {m : Machine} {p : Path} (h : m.leadsSomewhere p.toString = .ok false) :
    read m p = .error (.config (.manifestMissing p.toString)) := by
  show (content m p.toString >>= _) = _
  rw [content_of_missing h]
  rfl

end Converge.Manifest
