import Formulary.Definition.Basic
import Formulary.Definition.LengthRule

/-!
# Checking definitions

The rules a definition must keep: every field is named, names differ, dependencies and programs are
given together, dependencies name fields of the form, and encoded length rules can be read.
-/

namespace Formulary

/-- A rule of definitions that is broken. -/
inductive DefinitionError where
  | nameRequired
  | duplicateField (name : String)
  | unpairedDependencies (field : String)
  | unknownDependency (field dependency : String)
  | invalidRules (field : String) (reason : RuleListError)
deriving DecidableEq, Repr

namespace DefinitionError

/-- The error in words. -/
def message : DefinitionError → String
  | .nameRequired => "field name is required"
  | .duplicateField name => "duplicate field name: " ++ name
  | .unpairedDependencies field =>
    "field " ++ field ++ ": dependsOn and depsLogic must be given together"
  | .unknownDependency field dependency =>
    "field " ++ field ++ ": dependsOn names unknown field " ++ dependency
  | .invalidRules field reason => "field " ++ field ++ ": invalid validators: " ++ reason.message

end DefinitionError

namespace FormDefinition

/-- The first field without a name, or with a name among `seen` or of an earlier field. -/
def checkNamesFrom (seen : List String) : List FieldDefinition → Except DefinitionError Unit
  | [] => .ok ()
  | f :: fs =>
    if f.name.isEmpty then .error .nameRequired
    else if seen.contains f.name then .error (.duplicateField f.name)
    else checkNamesFrom (f.name :: seen) fs

/-- Every field is named, and no two have the same name. -/
def checkNames (d : FormDefinition) : Except DefinitionError Unit :=
  checkNamesFrom [] d.fields

/-- Dependencies and programs of a field come together, and every dependency is a field. -/
def checkDependencies (d : FormDefinition) (f : FieldDefinition) : Except DefinitionError Unit :=
  match f.dependencies, f.programs with
  | none, none => .ok ()
  | some dependencies, some _ =>
    match dependencies.find? fun name => (d.field? name).isNone with
    | some name => .error (.unknownDependency f.name name)
    | none => .ok ()
  | _, _ => .error (.unpairedDependencies f.name)

end FormDefinition

namespace FieldDefinition

/-- The length rules of a field; none if none are declared. -/
def lengthRules (f : FieldDefinition) : Except DefinitionError (List LengthRule) :=
  match f.rules with
  | none => .ok []
  | some encoded =>
    match LengthRule.parseList encoded with
    | .ok rules => .ok rules
    | .error reason => .error (.invalidRules f.name reason)

end FieldDefinition

end Formulary
