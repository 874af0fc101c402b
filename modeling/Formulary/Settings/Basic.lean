import Formulary.Json.Basic
import Formulary.Rule.Machine

/-!
# Settings

What can be set for every run of the engine: the step limit, which must be at least one, the
relation that jumps test, and a filter for the log.
-/

namespace Formulary

/-- The settings of the engine. -/
structure Settings where
  maxSteps : Nat := 10000
  relation : Relation := .greaterOrEqual
  logFilter : Option String := none
deriving DecidableEq, Repr, Inhabited

namespace Settings

/-- The options of runs under the settings. -/
def runOptions (s : Settings) : RunOptions :=
  ⟨s.maxSteps, s.relation⟩

/-- The settings as a document. -/
def toJson (s : Settings) : Json :=
  .object <|
    [("max-steps", .count s.maxSteps), ("jump-relation", .text s.relation.name)]
    ++ (s.logFilter.map fun f => ("log-filter", .text f)).toList

end Settings

/-- Why there are no settings. -/
inductive SettingsError where
  /-- A file that was asked for does not exist. -/
  | notFound (path : String)
  /-- The extension of a file names no format for settings. -/
  | unsupportedFormat (path : String)
  /-- A layer cannot be read, or a value is not of the kind its key asks for. -/
  | inconsistent
  /-- The step limit is zero. -/
  | noSteps
deriving DecidableEq, Repr

namespace SettingsError

/-- The error in words. -/
def message : SettingsError → String
  | .notFound path => "file not found: " ++ path
  | .unsupportedFormat path => "unsupported file format: " ++ path
  | .inconsistent => "invalid configuration"
  | .noSteps => "invalid configuration value for key 'max-steps': must be at least 1"

end SettingsError

end Formulary
