import Formulary.Value

/-!
# Form definitions

A definition declares the fields of a form in order, each with its initial value, its length rules
in their encoded form, its form validators, and the rule programs that run when a field it depends
on changes. Nothing in it has been checked or compiled.
-/

namespace Formulary

/-- A form validator as declared: the name its failures are reported under, the message, and the
source of its program. -/
structure ValidatorDefinition where
  name : String
  message : String
  code : String
deriving DecidableEq, Repr, Inhabited

/-- A field as declared. -/
structure FieldDefinition where
  name : String
  value : Value := .null
  rules : Option String := none
  validators : List ValidatorDefinition := []
  dependencies : Option (List String) := none
  programs : Option (List String) := none
deriving DecidableEq, Repr, Inhabited

/-- A form as declared. -/
structure FormDefinition where
  name : String := ""
  fields : List FieldDefinition := []
deriving DecidableEq, Repr, Inhabited

namespace FieldDefinition

/-- Both the dependencies and the programs are given. -/
def hasDependencies (f : FieldDefinition) : Bool :=
  f.dependencies.isSome && f.programs.isSome

end FieldDefinition

namespace FormDefinition

/-- The first field of a name. -/
def field? (d : FormDefinition) (name : String) : Option FieldDefinition :=
  d.fields.find? (·.name == name)

/-- The field names in order of declaration. -/
def fieldNames (d : FormDefinition) : List String :=
  d.fields.map (·.name)

end FormDefinition

end Formulary
