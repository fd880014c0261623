/-
  Converge.Transcript
  ───────────────────
  **WHAT A RUN PRINTS.**

  A run leaves a transcript: entries that say what is printed, in order.  `Entry.printed` gives each
  its form: a line of text, a table or a panel.
-/
import Converge.Markup
import Converge.Text.Width

namespace Converge

open Converge.Text

/-- A table of texts. -/
structure Table where
  /-- The title. -/
  title : String
  /-- The headings. -/
  columns : List String
  /-- The rows, each with one text for a column. -/
  rows : List (List String)
deriving DecidableEq, Repr

/-- An entry of a transcript. -/
inductive Entry where
  /-- A step on a resource, or the step that would be taken. -/
  | progress (dryRun : Bool) (id message : String)
  /-- A resource failed. -/
  | failed (message : String)
  /-- A manifest was not loaded. -/
  | notLoaded (message : String)
  /-- How many resources failed, out of how many. -/
  | summary (bad total : Nat)
  /-- A table. -/
  | table (t : Table)
  /-- A panel with a text. -/
  | panel (text : String)
deriving DecidableEq, Repr

/-- What is printed. -/
inductive Printed where
  /-- A line of text, which may hold line feeds. -/
  | line (text : String)
  /-- A table. -/
  | table (t : Table)
  /-- A panel. -/
  | panel (text : String)
deriving DecidableEq, Repr

namespace Entry

/-- The markup of a line. -/
def lineMarkup? : Entry → Option String
  | .progress dryRun id message =>
    some ((if dryRun then Markup.styled "dim" "(dry-run)" ++ " " else "")
      ++ Markup.escape id ++ " " ++ Markup.escape message)
  | .failed message => some (Markup.styled "red" ("✘ " ++ Markup.escape message))
  | .notLoaded message => some (Markup.styled "red" ("❌ " ++ Markup.escape message))
  | .summary bad total =>
    some (if bad = 0 then Markup.styled "green" ("✔ " ++ toString total ++ " recurso(s) procesados")
      else Markup.styled "red" ("✘ " ++ toString bad ++ " recurso(s) con error"))
  | .table _ => none
  | .panel _ => none

/-- The form in which an entry is printed; a line has its tabs expanded. -/
def printed (e : Entry) : Printed :=
  match e, e.lineMarkup? with
  | .table t, _ => .table t
  | .panel text, _ => .panel text
  | _, some markup => .line (expandTabs (Markup.shown markup))
  | _, none => .line ""

end Entry

/-- What has been printed, in order. -/
abbrev Transcript := List Entry

end Converge
