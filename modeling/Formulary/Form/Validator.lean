import Formulary.Definition.Basic
import Formulary.Form.Store
import Formulary.NameMap
import Formulary.Rule.Machine

/-!
# Form validators

A form validator is a rule program that judges the form as a whole. It runs in validation context on
a host that only reads; a truthy result means the form is invalid. A report of a failure carries the
values of all fields the program refers to.
-/

namespace Formulary

/-- A compiled form validator of a field. -/
structure FormValidator where
  field : String
  name : String
  message : String
  program : Program
deriving DecidableEq, Repr

/-- The report of a validator that found the form invalid. -/
structure ValidationFailure where
  validator : String
  message : String
  marker : Value
  fields : NameMap Value
deriving DecidableEq, Repr

namespace FormValidator

/-- Compiles a validator declared by a field. -/
def compile (field : String) (d : ValidatorDefinition) : Except RuleError FormValidator :=
  (Program.compile d.code).map fun program => ⟨field, d.name, d.message, program⟩

/-- The host of validators: a store that is only read. -/
def host : Host Store :=
  Host.readOnly Store.get?

/-- Runs the validator's program on the values of a store. -/
def run (v : FormValidator) (options : RunOptions) (s : Store) : Except RuleError RunState :=
  (Machine.run host options v.program { context := .validation } s).1

/-- The values of the fields the program refers to. -/
def referencedFields (v : FormValidator) (s : Store) : NameMap Value :=
  .ofList <| v.program.referencedNames.filterMap fun name => (s.get? name).map fun value => (name, value)

/-- Judges the values of a store: none if they pass, and an error if the program fails. -/
def check (v : FormValidator) (options : RunOptions) (s : Store) :
    Except RuleError (Option ValidationFailure) :=
  (v.run options s).map fun c =>
    (c.result.filter Value.isTruthy).map fun marker => ⟨v.name, v.message, marker, v.referencedFields s⟩

end FormValidator

end Formulary
