import Formulary.Command.Arguments
import Formulary.Command.Error
import Formulary.Settings.Source
import Formulary.Terminal.Style

/-!
# Sessions

What a command finds when it starts: the files, the environment variables, the platform and the
options it runs under. From these come its settings, the form it works on and the colours of its
output.
-/

namespace Formulary

namespace Style

/-- Output is coloured on a terminal or on demand, and never against a variable that forbids
colours. -/
def ofVariables (terminal : Bool) (vs : Variables) : Style :=
  let forbidden := (vs.get? "NO_COLOR").isSome || vs.get? "CLICOLOR" = some "0"
    || vs.get? "TERM" = some "dumb"
  ⟨!forbidden && (terminal || (vs.get? "CLICOLOR_FORCE").isSome)⟩

end Style

/-- What a program finds around it when it starts. -/
structure Surroundings where
  workspace : Workspace
  environment : Variables
  /-- The operating system and the architecture. -/
  platform : String
  /-- The output goes to a terminal. -/
  terminal : Bool := false

/-- What a command finds when it starts: the surroundings, and the options it runs under. -/
structure Session extends Surroundings where
  options : SharedOptions := {}

namespace Session

/-- How output is sent to the terminal. -/
def style (s : Session) : Style :=
  Style.ofVariables s.terminal s.environment

/-- The settings, with the step limit of the command line if one is given. -/
def settings (s : Session) : Except CommandError Settings := do
  let settings ← (Settings.load s.workspace s.environment s.options.config).mapError .settings
  match s.options.maxSteps with
  | none => return settings
  | some 0 => .error .noSteps
  | some n => return { settings with maxSteps := n }

/-- The definition of a form, and the path of its file. -/
def definition (s : Session) (name : String) : Except CommandError (String × FormDefinition) := do
  let path ← (FormDefinition.find s.workspace name).mapError (.formNotFound name)
  let d ← (FormDefinition.load s.workspace path).mapError (.formNotLoaded path)
  return (path, d)

/-- The live form of a definition. -/
def form (s : Session) (name : String) : Except CommandError Form := do
  let settings ← s.settings
  let (path, d) ← s.definition name
  (Form.build d settings.runOptions).mapError (.formNotBuilt path)

end Session

/-- What a command leaves behind: its output, and why it failed if it did. -/
structure Outcome where
  output : String := ""
  error : Option CommandError := none
deriving DecidableEq, Repr

namespace Outcome

/-- The outcome of a failure that leaves no output. -/
def failed (e : CommandError) : Outcome :=
  { error := some e }

/-- Lines of output, each ended by a line break. -/
def text (lines : List String) : String :=
  String.join (lines.map (· ++ "\n"))

/-- The outcome of a computation that may fail. -/
def ofExcept : Except CommandError Outcome → Outcome
  | .ok o => o
  | .error e => failed e

end Outcome

end Formulary
