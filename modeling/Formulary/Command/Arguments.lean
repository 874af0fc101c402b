import Formulary.Command.Assignment
import Formulary.Rule.Opcode
import Formulary.Settings.Variables

/-!
# The command line

A command line is the name of a command among options and operands. Options start with two hyphens,
two of them also have a letter, and letters may share one hyphen; a value follows its option or an
equals sign. After a lone `--` everything is an operand. The options that every command understands
may stand on either side of its name; the ones after it count more.

`Invocation.ofArguments` reads a command line, or says that it is not one.
-/

namespace Formulary

/-- An option of the command line. -/
inductive Switch where
  | json
  | config
  | maxSteps
  | verbose
  | quiet
  | context
  | set
  | value
  | help
  | version
deriving DecidableEq, Repr

namespace Switch

/-- The name of an option after its two hyphens. -/
def name : Switch → String
  | .json => "json"
  | .config => "config"
  | .maxSteps => "max-steps"
  | .verbose => "verbose"
  | .quiet => "quiet"
  | .context => "context"
  | .set => "set"
  | .value => "value"
  | .help => "help"
  | .version => "version"

/-- The letter of an option. -/
def letter? : Switch → Option Char
  | .verbose => some 'v'
  | .quiet => some 'q'
  | .help => some 'h'
  | .version => some 'V'
  | _ => none

/-- A value belongs to the option. -/
def takesValue : Switch → Bool
  | .config => true
  | .maxSteps => true
  | .context => true
  | .set => true
  | .value => true
  | _ => false

/-- The options that every command understands. -/
def shared : List Switch :=
  [.json, .config, .maxSteps, .verbose, .quiet, .help, .version]

end Switch

/-- A part of a command line. -/
inductive Part where
  | flag (s : Switch)
  | setting (s : Switch) (value : String)
  | operand (text : String)
deriving DecidableEq, Repr

/-- What an argument is by itself. -/
inductive Shape where
  | operand
  /-- All arguments that follow are operands. -/
  | separator
  | parts (l : List Part)
  /-- The value of the option is the next argument. -/
  | awaits (s : Switch)
deriving DecidableEq, Repr

namespace Shape

/-- The shape of an option written by its name, which an equals sign and a value may follow. -/
def ofName? (known : List Switch) (cs : List Char) : Option Shape :=
  let (name, value?) := match Text.splitFirst? '=' cs with
    | some (name, value) => (name, some (String.ofList value))
    | none => (cs, none)
  match known.find? (·.name == String.ofList name), value? with
  | none, _ => none
  | some s, none => some (if s.takesValue then .awaits s else .parts [.flag s])
  | some s, some value => if s.takesValue then some (.parts [.setting s value]) else none

/-- The shape of options written by their letters. -/
def ofLetters? (known : List Switch) (cs : List Char) : Option Shape :=
  (cs.mapM fun c => (known.find? (·.letter? == some c)).map Part.flag).map .parts

/-- The shape of an argument where the given options are known. -/
def of? (known : List Switch) (argument : String) : Option Shape :=
  match argument.toList with
  | '-' :: '-' :: [] => some .separator
  | '-' :: '-' :: cs => ofName? known cs
  | '-' :: [] => some .operand
  | '-' :: cs => ofLetters? known cs
  | _ => some .operand

end Shape

/-- An argument that cannot be the value of the option before it. -/
def startsOption (argument : String) : Bool :=
  match argument.toList with
  | '-' :: _ :: _ => true
  | _ => false

namespace Part

/-- The parts of a list of arguments. -/
def ofArguments? (known : List Switch) : List String → Option (List Part)
  | [] => some []
  | argument :: rest =>
    match Shape.of? known argument with
    | none => none
    | some .operand => (ofArguments? known rest).map (.operand argument :: ·)
    | some .separator => some (rest.map .operand)
    | some (.parts l) => (ofArguments? known rest).map (l ++ ·)
    | some (.awaits s) =>
      match rest with
      | [] => none
      | value :: rest =>
        if startsOption value then none
        else (ofArguments? known rest).map (.setting s value :: ·)

/-- The parts in front of the first operand; that operand, if there is one, and the arguments after
it. -/
def splitAtOperand? (known : List Switch) :
    List String → Option (List Part × Option (String × List String))
  | [] => some ([], none)
  | argument :: rest =>
    match Shape.of? known argument with
    | none => none
    | some .operand => some ([], some (argument, rest))
    | some .separator => if rest.isEmpty then some ([], none) else none
    | some (.parts l) => (splitAtOperand? known rest).map fun (before, after) => (l ++ before, after)
    | some (.awaits s) =>
      match rest with
      | [] => none
      | value :: rest =>
        if startsOption value then none
        else (splitAtOperand? known rest).map fun (before, after) =>
          (.setting s value :: before, after)

/-- The values of an option. -/
def valuesOf (s : Switch) (parts : List Part) : List String :=
  parts.filterMap fun
    | .setting t value => if s = t then some value else none
    | _ => none

/-- The value of an option that may be given once. -/
def value? (s : Switch) (parts : List Part) : Option (Option String) :=
  match valuesOf s parts with
  | [] => some none
  | [v] => some (some v)
  | _ => none

/-- Whether a flag that may be given once is given. -/
def flag? (s : Switch) (parts : List Part) : Option Bool :=
  match parts.filter (· = .flag s) with
  | [] => some false
  | [_] => some true
  | _ => none

/-- The operands. -/
def operands (parts : List Part) : List String :=
  parts.filterMap fun
    | .operand text => some text
    | _ => none

/-- The only operand. -/
def operand? (parts : List Part) : Option String :=
  match operands parts with
  | [text] => some text
  | _ => none

end Part

/-- The options that every command understands. -/
structure SharedOptions where
  json : Bool := false
  config : Option String := none
  maxSteps : Option Nat := none
  verbose : Bool := false
  quiet : Bool := false
deriving DecidableEq, Repr, Inhabited

namespace SharedOptions

/-- A step limit: digits, perhaps after a plus sign, for a number below `2^64`. -/
def steps? (text : String) : Option Nat :=
  let cs := text.toList
  (Decimal.digits? (if cs.head? = some '+' then cs.drop 1 else cs)).filter (· < UInt64.size)

/-- A path, which must not be empty. -/
def path? (text : String) : Option String :=
  if text.isEmpty then none else some text

/-- Reads an option that may be absent. -/
def optional? {α : Type} (read : String → Option α) : Option String → Option (Option α)
  | none => some none
  | some text => (read text).map some

/-- Reads the options on one side of the name of a command. -/
def ofParts? (parts : List Part) : Option SharedOptions := do
  let json ← Part.flag? .json parts
  let config ← (Part.value? .config parts).bind (optional? path?)
  let maxSteps ← (Part.value? .maxSteps parts).bind (optional? steps?)
  let verbose ← Part.flag? .verbose parts
  let quiet ← Part.flag? .quiet parts
  return ⟨json, config, maxSteps, verbose, quiet⟩

/-- The options after the name of a command over those in front of it. -/
def overlay (after before : SharedOptions) : SharedOptions where
  json := after.json || before.json
  config := after.config.or before.config
  maxSteps := after.maxSteps.or before.maxSteps
  verbose := after.verbose || before.verbose
  quiet := after.quiet || before.quiet

end SharedOptions

/-- A command with its operands and its own options. -/
inductive Command where
  /-- List the rows of a program. -/
  | compile (source : String) (context : Option Context)
  /-- Report what is wrong in the definition of a form. -/
  | check (form : String)
  /-- Change fields one after another and show what that sets in motion. -/
  | run (form : String) (changes : List Assignment)
  /-- Seed values and judge the form. -/
  | validate (form : String) (values : List Assignment)
  /-- Show the settings. -/
  | config
  /-- Write a completion script for a shell. -/
  | completion
  /-- Describe the program and its instruction set. -/
  | version
  /-- Explain the command line. -/
  | help
  /-- Name the program and its version. -/
  | release
deriving Repr

namespace Command

/-- The context of a name. -/
def context? : String → Option Context
  | "propagation" => some .propagation
  | "validation" => some .validation
  | _ => none

/-- Reads all values of an option as assignments. -/
def assignments? (s : Switch) (parts : List Part) : Option (List Assignment) :=
  (Part.valuesOf s parts).mapM fun text => (Assignment.parse text).toOption

/-- No operands are given. -/
def bare? (c : Command) (parts : List Part) : Option Command :=
  if (Part.operands parts).isEmpty then some c else none

/-- The shells for which completion scripts exist. -/
def shells : List String := ["bash", "elvish", "fish", "powershell", "zsh"]

/-- The names of commands. -/
def names : List String :=
  ["compile", "check", "run", "validate", "config", "completion", "version", "help"]

/-- The options of a command besides the shared ones. -/
def ownSwitches : String → List Switch
  | "compile" => [.context]
  | "run" => [.set]
  | "validate" => [.value]
  | _ => []

/-- The command of a name with the parts of the command line after it. -/
def ofParts? (name : String) (parts : List Part) : Option Command :=
  match name with
  | "compile" => do
    let source ← Part.operand? parts
    let context ← (Part.value? .context parts).bind (SharedOptions.optional? context?)
    return .compile source context
  | "check" => (Part.operand? parts).map .check
  | "run" => do return .run (← Part.operand? parts) (← assignments? .set parts)
  | "validate" => do return .validate (← Part.operand? parts) (← assignments? .value parts)
  | "config" => bare? .config parts
  | "completion" => ((Part.operand? parts).filter shells.contains).map fun _ => .completion
  | "version" => bare? .version parts
  | "help" => some .help
  | _ => none

end Command

/-- A command with the options it runs under. -/
structure Invocation where
  options : SharedOptions
  command : Command
deriving Repr

namespace Invocation

/-- The variable that names the file with the settings. -/
def configVariable : String := "FORMLOGIC_CONFIG"

/-- The path the environment gives, which counts on a side of the name of a command where none is
given. -/
def configFallback? (vs : Variables) (outer inner : SharedOptions) : Option (Option String) :=
  if outer.config.isSome && inner.config.isSome then some none
  else SharedOptions.optional? SharedOptions.path? (vs.get? configVariable)

/-- The command that the first of the options `--help` and `--version` stands for. -/
def information? (parts : List Part) : Option Command :=
  parts.findSome? fun
    | .flag .help => some .help
    | .flag .version => some .release
    | _ => none

/-- Reads the command of a name with the options in front of the name and the arguments after it. -/
def ofCommand? (vs : Variables) (before : List Part) (name : String) (arguments : List String) :
    Option Invocation := do
  if !Command.names.contains name then none
  let after ← Part.ofArguments? (Command.ownSwitches name ++ Switch.shared) arguments
  let outer ← SharedOptions.ofParts? before
  let inner ← SharedOptions.ofParts? after
  let fallback ← configFallback? vs outer inner
  let command ← (information? after).or (Command.ofParts? name after)
  let options := inner.overlay outer
  return ⟨{ options with config := options.config.or fallback }, command⟩

/-- Reads a command line; none if it is not one. -/
def ofArguments? (vs : Variables) (arguments : List String) : Option Invocation := do
  let (before, rest?) ← Part.splitAtOperand? Switch.shared arguments
  match information? before, rest? with
  | some command, _ => return ⟨{}, command⟩
  | none, none => return ⟨{}, .help⟩
  | none, some (name, rest) => ofCommand? vs before name rest

end Invocation

end Formulary
