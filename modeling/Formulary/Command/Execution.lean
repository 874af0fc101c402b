import Formulary.Command.Inspection
import Formulary.Command.Listing
import Formulary.Command.Rehearsal

/-!
# Executing commands

`Session.execute` gives the outcome of a command, and `Surroundings.execute?` the outcome of a whole
command line, if it is one.
-/

namespace Formulary

/-- The version of the program. -/
def release : String := "0.1.0"

/-- The name of the build. -/
def build : String := "dev"

/-- How the command line is written. -/
def synopsis : List String :=
  ["Usage: fl [OPTIONS] <COMMAND>",
    "",
    "Commands:",
    "  compile SOURCE [--context propagation|validation]",
    "  check FORM",
    "  run FORM [--set NAME=VALUE]...",
    "  validate FORM [--value NAME=VALUE]...",
    "  config",
    "  version",
    "",
    "Options:",
    "  --json, --config PATH, --max-steps N, -v/--verbose, -q/--quiet, -h/--help, -V/--version"]

namespace Session

/-- Shows the settings. -/
def config (s : Session) : Except CommandError Outcome := do
  let settings ← s.settings
  return {
    output := Outcome.text <|
      if s.options.json then [settings.toJson.pretty]
      else
        ["max-steps = " ++ toString settings.maxSteps,
          "jump-relation = " ++ settings.relation.name,
          "log-filter = " ++ settings.logFilter.getD "(none)"] }

/-- Describes the program and its instruction set. -/
def version (s : Session) : Outcome :=
  let mnemonics := Opcode.all.map Opcode.mnemonic
  { output := Outcome.text <|
      if s.options.json then
        [(Json.object [("build", .text build), ("defaultMaxSteps", .count ({} : Settings).maxSteps),
          ("opcodes", Json.texts mnemonics), ("platform", .text s.platform),
          ("version", .text release)]).pretty]
      else
        ("fl version " ++ release ++ " (" ++ build ++ ") " ++ s.platform)
          :: (if s.options.quiet then [] else ["opcodes: " ++ Text.joinWith " " mnemonics]) }

/-- The outcome of a command. -/
def execute (s : Session) : Command → Outcome
  | .compile source context => s.compile source context
  | .check form => .ofExcept (s.check form)
  | .run form changes => .ofExcept (s.run form changes)
  | .validate form values => .ofExcept (s.validate form values)
  | .config => .ofExcept s.config
  | .completion => .failed .noCompletion
  | .version => s.version
  | .help => { output := Outcome.text synopsis }
  | .release => { output := Outcome.text ["fl " ++ release] }

end Session

namespace Surroundings

/-- The outcome of a command line; none if it is not one. -/
def execute? (s : Surroundings) (arguments : List String) : Option Outcome :=
  (Invocation.ofArguments? s.environment arguments).map fun i =>
    Session.execute { s with options := i.options } i.command

end Surroundings

namespace Invocation

/-- The paths at which a command may look for files. -/
def paths (directory : String) (i : Invocation) : List String :=
  let settings := Settings.paths directory i.options.config
  match i.command with
  | .check form => settings ++ FormDefinition.candidates directory form
  | .run form _ => settings ++ FormDefinition.candidates directory form
  | .validate form _ => settings ++ FormDefinition.candidates directory form
  | .config => settings
  | _ => []

end Invocation

namespace CommandError

/-- The report of a failure. -/
def report (json : Bool) (e : CommandError) : String :=
  if json then (Json.object [("error", .text e.message)]).pretty else "Error: " ++ e.message

end CommandError

end Formulary
