/-
  Converge.CommandLine.Parse
  ──────────────────────────
  **FROM WORDS TO A REQUEST.**

  The first word is the command.  After it options and arguments come in any order; `--` ends the
  options.  An option has its value behind an equals sign or in the next word, whatever that looks
  like; of an option given more than once the last value counts.  Faults are found from left to
  right, and missing and extra arguments last.
-/
import Converge.CommandLine.Basic
import Converge.Text.Similar

namespace Converge

open Converge.Text

namespace CommandLine

/-! ## §1. Words. -/

/-- An option that a command takes. -/
structure OptionForm where
  /-- Its name. -/
  name : String
  /-- Whether it has a value. -/
  hasValue : Bool
deriving DecidableEq, Repr

/-- The words behind a command: options with their values, and arguments, each in order. -/
structure Words where
  /-- The options. -/
  options : List (String × Option String) := []
  /-- The arguments. -/
  arguments : List String := []
deriving DecidableEq, Repr

namespace Words

/-- Puts an option in front. -/
def addOption (w : Words) (name : String) (value : Option String) : Words :=
  { w with options := (name, value) :: w.options }

/-- Puts an argument in front. -/
def addArgument (w : Words) (word : String) : Words := { w with arguments := word :: w.arguments }

/-- Whether an option is given. -/
def has (w : Words) (name : String) : Bool := w.options.any (·.1 == name)

/-- The last value of an option. -/
def value? (w : Words) (name : String) : Option String :=
  (w.options.reverse.find? (·.1 == name)).bind (·.2)

end Words

/-- The word that ends the options. -/
def endOfOptions : String := "--"

/-- Whether a word is an option: it starts with a hyphen and goes on. -/
def isOption (word : String) : Bool :=
  match word.toList with
  | '-' :: _ :: _ => true
  | _ => false

/-- Splits the value behind an equals sign off. -/
def splitValue (word : String) : String × Option String :=
  let name := word.toList.takeWhile (· ≠ '=')
  match word.toList.drop name.length with
  | [] => (word, none)
  | _ :: value => (String.ofList name, some (String.ofList value))

/-- The name by which an unknown option is reported: behind two hyphens all of it, else one letter. -/
def reportedOption (word : String) : String :=
  match word.toList with
  | '-' :: '-' :: _ => (splitValue word).1
  | cs => String.ofList (cs.take 2)

/-- Sorts the words behind a command that takes the options `forms`. -/
def sortWords (forms : List OptionForm) : List String → Except UsageFault Words
  | [] => .ok {}
  | word :: rest =>
    if word = endOfOptions then .ok { arguments := rest }
    else if isOption word then
      let (name, attached) := splitValue word
      match forms.find? (·.name == name) with
      | none => .error (.unknownOption (reportedOption word) [])
      | some form =>
        if form.hasValue then
          -- the next word is the value, whatever it looks like
          match attached, rest with
          | some value, rest => (sortWords forms rest).map (·.addOption name (some value))
          | none, value :: rest => (sortWords forms rest).map (·.addOption name (some value))
          | none, [] => .error (.noValue name)
        else
          match attached with
          | some _ => .error (.unusedValue name)
          | none => (sortWords forms rest).map (·.addOption name none)
    else (sortWords forms rest).map (·.addArgument word)

/-! ## §2. Commands. -/

/-- The option for the site directory. -/
def siteOption : OptionForm := ⟨"--site-dir", true⟩

/-- The option for saying what would be done. -/
def dryRunOption : OptionForm := ⟨"--dry-run", false⟩

/-- The argument for the manifest. -/
def manifestArgument : String := "manifest"

/-- The site directory that is given. -/
def siteOf (w : Words) : Option Path := (w.value? siteOption.name).map Path.ofString

/-- The one argument that a command takes. -/
def oneArgument (name : String) (w : Words) : Except UsageFault String :=
  match w.arguments with
  | [] => .error (.missingArgument name)
  | [word] => .ok word
  | _ :: extra => .error (.extraArguments extra)

/-- Checks that there are no arguments. -/
def noArguments (w : Words) : Except UsageFault Unit :=
  if w.arguments.isEmpty then .ok () else .error (.extraArguments w.arguments)

/-- A command: its name and how the words behind it become a request. -/
structure Command where
  /-- Its name. -/
  name : String
  /-- The options that it takes. -/
  options : List OptionForm
  /-- The request. -/
  request : Words → Except UsageFault Request

/-- The commands. -/
def commands : List Command :=
  [⟨"plan", [siteOption], fun w => do
      return .plan (Path.ofString (← oneArgument manifestArgument w)) (siteOf w)⟩,
    ⟨"apply", [dryRunOption, siteOption], fun w => do
      return .apply (Path.ofString (← oneArgument manifestArgument w)) (w.has dryRunOption.name)
        (siteOf w)⟩,
    ⟨"types", [], fun w => do
      noArguments w
      return .kinds⟩,
    ⟨"version", [], fun w => do
      noArguments w
      return .version⟩]

/-- The names of the commands. -/
def commandNames : List String := commands.map (·.name)

/-- The fault of a word that names no command. -/
def notACommand (word : String) : UsageFault :=
  let similar := suggestions word commandNames
  if isOption word && word != endOfOptions then .unknownOption (reportedOption word) similar
  else .unknownCommand word similar

/-- The request of a command with the words behind it. -/
def parseCommand (word : String) (rest : List String) : Except UsageFault Request :=
  match commands.find? (·.name == word) with
  | none => .error (notACommand word)
  | some c => do c.request (← sortWords c.options rest)

/-- The request of a command line. -/
def parse (words : List String) : Except UsageFault Request :=
  match words with
  | [] => .error .noCommand
  | word :: rest =>
    if word = endOfOptions then
      match rest with
      | [] => .error .noCommand
      | word :: rest => parseCommand word rest
    else if isOption word then .error (.unknownOption (reportedOption word) [])
    else parseCommand word rest

end CommandLine

end Converge
