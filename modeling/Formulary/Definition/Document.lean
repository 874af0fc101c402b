import Formulary.Definition.Basic

/-!
# Definitions as documents

Definitions are kept in documents of several formats. A `DocumentView` says how a format shows
texts, values, lists and members; reading a definition through a view is the same for all of them.
The members are `name` and `fields` of a form; `name`, `value`, `validators`, `formValidators`,
`dependsOn` and `depsLogic` of a field; `name`, `errorMessage` and `code` of a validator. Unknown
members are skipped and a known member given twice is refused. Where the format allows it a record
may also be a list of its members in that order.

Writing leaves out what reading fills in: an empty form name, a null value, absent options and an
empty list of validators.
-/

namespace Formulary

/-- How the documents of a format are taken apart. -/
structure DocumentView (δ : Type) where
  /-- The text of a document where a text is expected. -/
  text? : δ → Option String
  /-- The field value of a document. -/
  value? : δ → Option Value
  /-- The items of a list. -/
  items? : δ → Option (List δ)
  /-- The members of a record. -/
  members? : δ → Option (List (String × δ))
  /-- The document stands for an absent option. -/
  isAbsent : δ → Bool
  /-- A record may be a list of its members. -/
  positional : Bool
  /-- Such a list may go on after the last member. -/
  surplus : Bool

namespace DocumentView

variable {δ : Type} (view : DocumentView δ)

/-- The first member of a name, if it is given once at most. -/
def single? (name : String) (members : List (String × δ)) : Option (Option δ) :=
  match members.filter (·.1 == name) with
  | [] => some none
  | [m] => some (some m.2)
  | _ => none

/-- The members of a record in the order of `names`, each absent or given once. -/
def record? (names : List String) (doc : δ) : Option (List (Option δ)) :=
  match view.members? doc with
  | some members => names.mapM (single? · members)
  | none =>
    if view.positional then
      (view.items? doc).bind fun items =>
        if view.surplus || items.length ≤ names.length then
          some ((items.take names.length).map some
            ++ List.replicate (names.length - items.length) none)
        else none
    else none

/-- Reads a member that must be given. -/
def required {α : Type} (read : δ → Option α) : Option δ → Option α
  | none => none
  | some doc => read doc

/-- Reads a member that has a default. -/
def withDefault {α : Type} (default : α) (read : δ → Option α) : Option δ → Option α
  | none => some default
  | some doc => read doc

/-- Reads a member that may be absent. -/
def optional {α : Type} (read : δ → Option α) : Option δ → Option (Option α)
  | none => some none
  | some doc => if view.isAbsent doc then some none else (read doc).map some

/-- Reads a list item by item. -/
def listOf {α : Type} (read : δ → Option α) (doc : δ) : Option (List α) :=
  (view.items? doc).bind (·.mapM read)

/-- Reads a form validator. -/
def validator? (doc : δ) : Option ValidatorDefinition := do
  match ← view.record? ["name", "errorMessage", "code"] doc with
  | [name, message, code] =>
    return {
      name := ← required view.text? name
      message := ← withDefault "" view.text? message
      code := ← required view.text? code }
  | _ => none

/-- Reads a field. -/
def field? (doc : δ) : Option FieldDefinition := do
  let names := ["name", "value", "validators", "formValidators", "dependsOn", "depsLogic"]
  match ← view.record? names doc with
  | [name, value, rules, validators, dependencies, programs] =>
    return {
      name := ← required view.text? name
      value := ← withDefault .null view.value? value
      rules := ← view.optional view.text? rules
      validators := ← withDefault [] (view.listOf view.validator?) validators
      dependencies := ← view.optional (view.listOf view.text?) dependencies
      programs := ← view.optional (view.listOf view.text?) programs }
  | _ => none

/-- Reads a form. -/
def form? (doc : δ) : Option FormDefinition := do
  match ← view.record? ["name", "fields"] doc with
  | [name, fields] =>
    return {
      name := ← withDefault "" view.text? name
      fields := ← withDefault [] (view.listOf view.field?) fields }
  | _ => none

end DocumentView

namespace Json

/-- The text of a string. -/
def text? : Json → Option String
  | .text s => some s
  | _ => none

/-- The items of an array. -/
def items? : Json → Option (List Json)
  | .array items => some items
  | _ => none

/-- The members of an object. -/
def members? : Json → Option (List (String × Json))
  | .object members => some members
  | _ => none

/-- The document `null`. -/
def isNull : Json → Bool
  | .null => true
  | _ => false

/-- JSON documents as definitions see them. -/
def view : DocumentView Json where
  text? := text?
  value? := Value.ofJson?
  items? := items?
  members? := members?
  isAbsent := isNull
  positional := true
  surplus := false

/-- A list of texts. -/
def texts (items : List String) : Json :=
  .array (items.map .text)

/-- A member that is written only if it is given. -/
def optionalMember (name : String) : Option Json → List (String × Json)
  | none => []
  | some v => [(name, v)]

end Json

namespace ValidatorDefinition

/-- The validator as a document. -/
def toJson (v : ValidatorDefinition) : Json :=
  .object [("name", .text v.name), ("errorMessage", .text v.message), ("code", .text v.code)]

end ValidatorDefinition

namespace FieldDefinition

/-- The field as a document. -/
def toJson (f : FieldDefinition) : Json :=
  .object <|
    [("name", .text f.name)]
    ++ (if f.value = .null then [] else [("value", f.value.toJson)])
    ++ Json.optionalMember "validators" (f.rules.map .text)
    ++ (if f.validators.isEmpty then []
        else [("formValidators", .array (f.validators.map ValidatorDefinition.toJson))])
    ++ Json.optionalMember "dependsOn" (f.dependencies.map Json.texts)
    ++ Json.optionalMember "depsLogic" (f.programs.map Json.texts)

end FieldDefinition

namespace FormDefinition

/-- The form as a document. -/
def toJson (d : FormDefinition) : Json :=
  .object <|
    (if d.name.isEmpty then [] else [("name", .text d.name)])
    ++ [("fields", .array (d.fields.map FieldDefinition.toJson))]

/-- The form a document denotes. -/
def ofJson? (doc : Json) : Option FormDefinition :=
  Json.view.form? doc

end FormDefinition

end Formulary
