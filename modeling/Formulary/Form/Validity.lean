import Formulary.Form.Basic

/-!
# Validity

Judging a form runs every length rule and every form validator on the current values. The form is
valid when no rule is broken, no validator finds it invalid, and no validator's program fails.
-/

namespace Formulary

/-- A form validator whose program failed. -/
structure ValidatorFault where
  field : String
  validator : String
  error : RuleError
deriving DecidableEq, Repr

/-- The judgement of a form: the violations of length rules by field and key, the failures of form
validators, and the faults, the latter two in order of declaration. -/
structure Validity where
  fieldErrors : NameMap (NameMap LengthViolation) := .empty
  formErrors : List ValidationFailure := []
  faults : List ValidatorFault := []
deriving DecidableEq, Repr

namespace Validity

/-- Nothing was found. -/
def valid (v : Validity) : Bool :=
  v.fieldErrors.isEmpty && v.formErrors.isEmpty && v.faults.isEmpty

/-- The violations of rules by a value; under a key, the one of the last rule. -/
def violations (rules : List LengthRule) (value : Value) : NameMap LengthViolation :=
  .ofList ((rules.filterMap (·.check value)).map fun v => (v.key, v))

/-- The violations of the length rules of each field. -/
def fieldViolations (s : Store) (rules : List (String × List LengthRule)) :
    NameMap (NameMap LengthViolation) :=
  .ofList <| (rules.map fun (field, rules) => (field, violations rules ((s.get? field).getD .null))).filter
    (!·.2.isEmpty)

end Validity

namespace Form

/-- Judges the current values. -/
def validate (f : Form) : Validity where
  fieldErrors := Validity.fieldViolations f.store f.lengthRules
  formErrors := f.validators.filterMap fun v =>
    match v.check f.options f.store with
    | .ok failure => failure
    | .error _ => none
  faults := f.validators.filterMap fun v =>
    match v.check f.options f.store with
    | .ok _ => none
    | .error error => some ⟨v.field, v.name, error⟩

end Form

end Formulary
