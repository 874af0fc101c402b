import Formulary.Definition.Check
import Formulary.Form.Propagation
import Formulary.Form.Validator

/-!
# Forms

A form is built from a definition. Only a field without a name or with the name of an earlier one
makes that impossible; anything else that is wrong is recorded as an issue, and the rule it concerns
is left out. A form that is built can be changed (`Form.setValue`), seeded without running rules
(`Form.seed`, and `Form.loadValues` for what comes of it), and have components mounted and released.
-/

namespace Formulary

/-- Something wrong in a definition that disables part of the form. -/
inductive SetupIssue where
  /-- A declaration is inconsistent; the rules it concerns are left out. -/
  | definition (error : DefinitionError)
  /-- A program does not compile; the field gets no dependency rules. -/
  | program (field : String) (index : Nat) (error : RuleError)
  /-- A form validator does not compile and is left out. -/
  | validator (field name : String) (error : RuleError)
deriving DecidableEq, Repr

namespace SetupIssue

/-- The issue in words. -/
def message : SetupIssue → String
  | .definition error => error.message
  | .program field index error =>
    "field " ++ field ++ ": depsLogic[" ++ toString index ++ "]: " ++ error.message
  | .validator field name error => "field " ++ field ++ ": validator " ++ name ++ ": " ++ error.message

end SetupIssue

/-- Why a form cannot be built, or why a request to it is refused. -/
inductive FormError where
  | unknownField (name : String)
  | duplicateField (name : String)
  | definition (error : DefinitionError)
deriving DecidableEq, Repr

namespace FormError

/-- The error in words. -/
def message : FormError → String
  | .unknownField name => "unknown field: " ++ name
  | .duplicateField name => "duplicate field name: " ++ name
  | .definition error => "invalid form definition: " ++ error.message

/-- What a broken rule about names means for the form. -/
def ofDefinition : DefinitionError → FormError
  | .duplicateField name => .duplicateField name
  | error => .definition error

end FormError

/-- A live form: its values, its rules as compiled, and the components mounted. -/
structure Form where
  name : String
  options : RunOptions
  lengthRules : List (String × List LengthRule)
  subscriptions : List Subscription
  validators : List FormValidator
  issues : List SetupIssue
  owner : Owner
  store : Store
  registry : Registry
deriving DecidableEq, Repr

/-- What the definition of one field adds to a form. -/
structure FieldSetup where
  lengthRules : List LengthRule
  validators : List FormValidator
  subscription : Option Subscription
  issues : List SetupIssue
deriving DecidableEq, Repr

namespace FieldSetup

/-- The length rules of a field, or the issue with them. -/
def rules (f : FieldDefinition) : List LengthRule × List SetupIssue :=
  match f.lengthRules with
  | .ok rules => (rules, [])
  | .error error => ([], [.definition error])

/-- The validators that compile, and an issue for each that does not. -/
def compileValidators (field : String) :
    List ValidatorDefinition → List FormValidator × List SetupIssue
  | [] => ([], [])
  | d :: ds =>
    let (validators, issues) := compileValidators field ds
    match FormValidator.compile field d with
    | .ok v => (v :: validators, issues)
    | .error error => (validators, .validator field d.name error :: issues)

/-- The programs that compile, and an issue for each that does not; the first source has the given
index. -/
def compilePrograms (field : String) : (index : Nat) → List String → List Program × List SetupIssue
  | _, [] => ([], [])
  | index, source :: sources =>
    let (programs, issues) := compilePrograms field (index + 1) sources
    match Program.compile source with
    | .ok p => (p :: programs, issues)
    | .error error => (programs, .program field index error :: issues)

/-- The subscription of a field, or the issues that leave it out. -/
def subscription? (d : FormDefinition) (f : FieldDefinition) : Option Subscription × List SetupIssue :=
  match d.checkDependencies f with
  | .error error => (none, [.definition error])
  | .ok () =>
    match f.dependencies, f.programs with
    | some dependencies, some sources =>
      let (programs, issues) := compilePrograms f.name 0 sources
      (if issues.isEmpty then some ⟨f.name, dependencies, programs⟩ else none, issues)
    | _, _ => (none, [])

/-- What a field of a definition adds to the form. -/
def ofField (d : FormDefinition) (f : FieldDefinition) : FieldSetup :=
  let (lengthRules, ruleIssues) := rules f
  let (validators, validatorIssues) := compileValidators f.name f.validators
  let (subscription, subscriptionIssues) := subscription? d f
  { lengthRules, validators, subscription,
    issues := ruleIssues ++ validatorIssues ++ subscriptionIssues }

end FieldSetup

/-- Writes fields one after another. One that is not declared ends it with an error, and what was written
before stands. -/
def Store.setEach : Store → List (String × Value) → Except FormError Unit × Store
  | s, [] => (.ok (), s)
  | s, (name, value) :: rest =>
    match s.set? name value with
    | none => (.error (.unknownField name), s)
    | some next => next.setEach rest

namespace Form

/-- The form of a definition whose names have been checked. -/
def assemble (d : FormDefinition) (options : RunOptions) : Form :=
  let setups := d.fields.map (FieldSetup.ofField d)
  let (owner, registry) := Registry.empty.newOwner
  { name := d.name
    options
    lengthRules := (d.fieldNames.zip (setups.map (·.lengthRules))).filter (!·.2.isEmpty)
    subscriptions := setups.filterMap (·.subscription)
    validators := setups.flatMap (·.validators)
    issues := setups.flatMap (·.issues)
    owner
    store := Store.empty.declareAll (d.fields.map fun f => (f.name, f.value))
    registry }

/-- Builds the form of a definition. -/
def build (d : FormDefinition) (options : RunOptions) : Except FormError Form :=
  match d.checkNames with
  | .ok () => .ok (assemble d options)
  | .error error => .error (.ofDefinition error)

/-- The value of a field, if there is such a field. -/
def value? (f : Form) (name : String) : Option Value :=
  f.store.get? name

/-- The values in order of declaration. -/
def values (f : Form) : List (String × Value) :=
  f.store.fields

/-- Changes a field and propagates the change; the journal says all that happened. -/
def setValue (f : Form) (name : String) (value : Value) : Except FormError (Form × Journal) :=
  if f.store.contains name then
    let change := (Propagation.start f.options f.subscriptions f.store f.registry name value).2
    .ok ({ f with store := change.store, registry := change.registry }, change.journal)
  else .error (.unknownField name)

/-- Seeds values in the form itself, without running any rule: looks all names up, then writes the
fields one after another. -/
def seed (f : Form) (values : List (String × Value)) : Except FormError Unit × Form :=
  match values.find? fun (name, _) => !f.store.contains name with
  | some (name, _) => (.error (.unknownField name), f)
  | none => ((f.store.setEach values).1, { f with store := (f.store.setEach values).2 })

/-- The form with values seeded, if that ends without an error. -/
def loadValues (f : Form) (values : List (String × Value)) : Except FormError Form :=
  (f.seed values).1.map fun _ => (f.seed values).2

/-- Mounts a component of an owner, a new one unless another is given. -/
def mountIn (f : Form) (owner : Owner) (identifier : String) (component : Component := .new) : Form :=
  { f with registry := f.registry.mount identifier owner component }

/-- Mounts a component of the form's own owner, a new one unless another is given. -/
def mount (f : Form) (identifier : String) (component : Component := .new) : Form :=
  f.mountIn f.owner identifier component

/-- Releases all components of an owner. -/
def unmount (f : Form) (owner : Owner) : Form :=
  { f with registry := f.registry.release owner }

end Form

end Formulary
