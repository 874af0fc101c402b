import Formulary.Command.Execution

/-!
# The program

The command line of the program: it finds out about its surroundings, lets the command line have its
outcome, and prints that. The exit code is 0 for success, 1 for a failure and 2 for a command line
that cannot be understood.
-/

namespace Formulary

/-- The variables the program asks for by name where it cannot see the whole environment. -/
def knownVariables : List String :=
  [Invocation.configVariable, "FORMLOGIC_MAX_STEPS", "FORMLOGIC_JUMP_RELATION",
    "FORMLOGIC_LOG_FILTER", "NO_COLOR", "CLICOLOR", "CLICOLOR_FORCE", "TERM"]

/-- The result of an action, if it succeeds. -/
def attempt {α : Type} (action : IO α) : IO (Option α) := do
  try
    return some (← action)
  catch _ =>
    return none

/-- The text of a file, if it can be read and holds one. -/
def readText? (path : String) : IO (Option String) := do
  return (← attempt (IO.FS.readBinFile path)).bind String.fromUTF8?

/-- What stands at a path. -/
def readEntry (path : String) : IO FileEntry := do
  match ← attempt (IO.FS.realPath path), ← attempt (IO.FS.readBinFile path) with
  | none, _ => return .missing
  | some _, none => return .directory
  | some _, some bytes => return (String.fromUTF8? bytes).elim .binary .text

/-- The environment of the process: as the system shows it, or variable by variable. -/
def readVariables : IO Variables := do
  match ← readText? "/proc/self/environ" with
  | some s =>
    return .ofList ((Text.words '\x00' s.toList).filterMap fun entry =>
      (Text.splitFirst? '=' entry).map fun (name, value) => (String.ofList name, String.ofList value))
  | none =>
    knownVariables.filterMapM fun name => do
      return (← IO.getEnv name).map fun value => (name, value)

/-- The operating system and the architecture, as the system shows them. -/
def readPlatform : IO String := do
  let os ← readText? "/proc/sys/kernel/ostype"
  let architecture ← readText? "/proc/sys/kernel/arch"
  let shown (s : Option String) : String := (s.map fun s => (Text.trimmed s).toLower).getD "unknown"
  return shown os ++ "/" ++ shown architecture

/-- Runs a command line and gives the exit code. -/
def start (arguments : List String) : IO UInt32 := do
  let environment ← readVariables
  match Invocation.ofArguments? environment arguments with
  | none =>
    (← IO.getStderr).putStrLn "error: the command line is not understood; try --help"
    return 2
  | some i =>
    let directory := (← IO.currentDir).toString
    let entries ← (i.paths directory).mapM fun path => return (path, ← readEntry path)
    let stdout ← IO.getStdout
    let session : Session := {
      workspace := .ofList directory entries
      environment := environment
      platform := ← readPlatform
      terminal := ← stdout.isTty
      options := i.options }
    let outcome := session.execute i.command
    stdout.putStr outcome.output
    match outcome.error with
    | none => return 0
    | some e =>
      (← IO.getStderr).putStrLn (e.report i.options.json)
      return 1

end Formulary

/-- Runs the program. -/
def main (arguments : List String) : IO UInt32 :=
  Formulary.start arguments
