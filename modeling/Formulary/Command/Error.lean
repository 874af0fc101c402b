import Formulary.Definition.File
import Formulary.Form.Basic
import Formulary.Settings.Basic

/-!
# Failures of commands

Why a command fails, and the line that explains it: what was being done, then the cause, then the
cause of that, each after a colon.
-/

namespace Formulary

namespace FormError

/-- The error followed by the broken rule behind it, if there is one. -/
def explained : FormError → String
  | .definition error => (FormError.definition error).message ++ ": " ++ error.message
  | error => error.message

end FormError

/-- Why a command fails. -/
inductive CommandError where
  /-- There are no settings. -/
  | settings (cause : SettingsError)
  /-- The step limit on the command line is zero. -/
  | noSteps
  /-- No file is meant by the name of a form. -/
  | formNotFound (name : String) (cause : FileError)
  | formNotLoaded (path : String) (cause : FileError)
  | formNotBuilt (path : String) (cause : FormError)
  /-- A field cannot be changed. -/
  | notSet (field : String) (cause : FormError)
  /-- Values cannot be seeded. -/
  | notSeeded (cause : FormError)
  /-- A program does not compile. -/
  | program (cause : RuleError)
  | rowsRejected (rejected total : Nat) (context : Context)
  | setupIssues (count : Nat) (path : String)
  | invalidForm
  /-- Completion scripts are made elsewhere. -/
  | noCompletion
deriving DecidableEq, Repr

namespace CommandError

/-- The failure in words. -/
def message : CommandError → String
  | .settings cause => "failed to load configuration: " ++ cause.message
  | .noSteps => "--max-steps must be at least 1"
  | .formNotFound name cause => "form '" ++ name ++ "' not found: " ++ cause.message
  | .formNotLoaded path cause => "failed to load form " ++ path ++ ": " ++ cause.message
  | .formNotBuilt path cause => "failed to build form " ++ path ++ ": " ++ cause.explained
  | .notSet field cause => "cannot set '" ++ field ++ "': " ++ cause.explained
  | .notSeeded cause => cause.explained
  | .program cause => cause.message
  | .rowsRejected rejected total context =>
    toString rejected ++ " of " ++ toString total ++ " rows cannot run in " ++ context.name
      ++ " context"
  | .setupIssues count path => toString count ++ " setup issue(s) in " ++ path
  | .invalidForm => "form is invalid"
  | .noCompletion => "completion scripts are not available"

end CommandError

end Formulary
