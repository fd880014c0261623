/-
  Converge.CommandLine.Run
  ────────────────────────
  **DOING WHAT A COMMAND LINE ASKS FOR.**

  A run ends with an exit code: zero if all went well, one if a resource failed or the manifest was
  not loaded, about which a line is printed.  A manifest is loaded before the site directory is
  looked for.  Failures of another kind end the run.
-/
import Converge.CommandLine.Basic
import Converge.Manifest.Load
import Converge.Runner

namespace Converge

namespace CommandLine

/-! ## §1. Exit codes. -/

/-- All went well. -/
def success : Nat := 0

/-- Something failed. -/
def failure : Nat := 1

/-- The exit code of a run with these outcomes. -/
def exitCode (outcomes : List Outcome) : Nat :=
  if outcomes.all Outcome.ok then success else failure

/-! ## §2. Commands. -/

/-- The name of the program. -/
def programName : String := "forja"

/-- What the program does. -/
def programPurpose : String := "Reconciliación declarativa de recursos"

/-- The version of the program. -/
def programVersion : String := "1.0.0"

/-- The text of the version panel. -/
def versionText : String :=
  programName ++ "\n" ++ programPurpose ++ "\n\nVersión: " ++ programVersion

/-- The title of the table of a plan. -/
def planTitle : String := "Plan"

/-- The title of the table of an application. -/
def applyTitle (dryRun : Bool) : String := if dryRun then "Apply (dry-run)" else "Apply"

/-- Loads the resources of a manifest; a failure about it is printed, and there are none. -/
def loadResources (r : Registry) (manifest : Path) : Act (Option (List FileResource)) :=
  tryCatch (do return some (← Act.observe fun m => Manifest.load r m manifest)) fun f =>
    if f.isAboutInput then do
      Act.say (.notLoaded f.message)
      return none
    else throw f

/-- Runs over the resources of a manifest and shows the outcome. -/
def runManifest (r : Registry) (mode : Mode) (manifest : Path) (dryRun : Bool) (site : Option Path)
    (title : String) : Act Nat := do
  match ← loadResources r manifest with
  | none => return failure
  | some resources =>
    -- only now: a manifest that is not loaded is reported whatever the site is
    let root ← Act.observe fun m => (Site.root m site).mapError .site
    let outcomes ← Runner.run mode { dryRun := dryRun, site := root } resources
    Runner.display title outcomes
    return exitCode outcomes

/-- The title of the table of kinds. -/
def kindsTitle : String := "Tipos de recurso"

/-- The headings of the table of kinds. -/
def kindsColumns : List String := ["Tipo", "Descripción"]

/-- Lists the kinds of resources in the order of their names. -/
def listKinds (r : Registry) : Act Unit := do
  match r.items.mapM fun k => [k.name, k.description].mapM Markup.render with
  | .error fault => throw (.markup fault)
  | .ok rows => Act.say (.table ⟨kindsTitle, kindsColumns, rows⟩)

/-- Does what is asked for; the result is the exit code. -/
def run (r : Registry) (request : Request) : Act Nat :=
  match request with
  | .plan manifest site => runManifest r .plan manifest true site planTitle
  | .apply manifest dryRun site => runManifest r .apply manifest dryRun site (applyTitle dryRun)
  | .kinds => do
    listKinds r
    return success
  | .version => do
    Act.say (.panel versionText)
    return success

end CommandLine

end Converge
