/-
  Converge.CommandLine.Basic
  ──────────────────────────
  **WHAT A COMMAND LINE ASKS FOR, AND HOW IT CAN BE WRONG.**

  A request is a command with its arguments.  A usage fault is a command line that is none; it is
  found before anything is done.
-/
import Converge.Path
import Converge.Text.Quoted

namespace Converge

open Converge.Text

/-- What a command line asks for. -/
inductive Request where
  /-- To look at the resources of a manifest. -/
  | plan (manifest : Path) (site : Option Path)
  /-- To bring the resources of a manifest to their state, or only to say how. -/
  | apply (manifest : Path) (dryRun : Bool) (site : Option Path)
  /-- To list the kinds of resources. -/
  | kinds
  /-- To show the version. -/
  | version
deriving DecidableEq, Repr

/-- Why a command line is none. -/
inductive UsageFault where
  /-- There is no command. -/
  | noCommand
  /-- The command is not known; those like it follow. -/
  | unknownCommand (name : String) (similar : List String)
  /-- The option is not known.  Where a command is expected those like it follow. -/
  | unknownOption (name : String) (similar : List String)
  /-- An argument is missing. -/
  | missingArgument (name : String)
  /-- There are more arguments than the command takes. -/
  | extraArguments (words : List String)
  /-- The option has no value. -/
  | noValue (option : String)
  /-- The option has a value and takes none. -/
  | unusedValue (option : String)
deriving DecidableEq, Repr

/-- A sentence with the names that may have been meant, if there are any. -/
def withSimilar (sentence : String) (similar : List String) (stop : String) : String :=
  if similar.isEmpty then sentence ++ stop
  else sentence ++ ". Did you mean " ++ ", ".intercalate (similar.map quote) ++ "?"

/-- What is said about a command line. -/
def UsageFault.message : UsageFault → String
  | .noCommand => "Missing command."
  | .unknownCommand name similar => withSimilar ("No such command " ++ quote name) similar "."
  | .unknownOption name similar => withSimilar ("No such option: " ++ name) similar ""
  | .missingArgument name => "Missing parameter: " ++ name
  | .extraArguments words => "Got unexpected extra argument(s) (" ++ " ".intercalate words ++ ")"
  | .noValue option => "Option " ++ quote option ++ " requires an argument."
  | .unusedValue option => "Option " ++ quote option ++ " does not take a value."

end Converge
