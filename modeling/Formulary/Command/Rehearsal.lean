import Formulary.Command.Session
import Formulary.Form.Report
import Formulary.Json.Sorted
import Formulary.Terminal.Lines

/-!
# Rehearsals of changes

A rehearsal changes the fields of a form one after another, with a component mounted for every field,
and shows what each change set in motion, what the fields and components hold in the end, and whether
the form is valid then. Validation alone seeds the values instead, so that no rule runs.
-/

namespace Formulary

/-- A form after some changes. -/
structure Rehearsal where
  form : Form
  changes : List (Assignment × Journal) := []

namespace Rehearsal

/-- Changes the fields of a form one after another. -/
def perform : List Assignment → Form → Except CommandError (Form × List (Assignment × Journal))
  | [], f => .ok (f, [])
  | a :: rest, f => do
    let (f, j) ← (f.setValue a.name a.value).mapError (.notSet a.name)
    let (f, changes) ← perform rest f
    return (f, (a, j) :: changes)

/-- Mounts a component for every field under the field's name. -/
def mountAll (f : Form) : Form :=
  f.store.names.foldl (fun f name => f.mount name) f

/-- Rehearses changes. -/
def of (f : Form) (changes : List Assignment) : Except CommandError Rehearsal := do
  let (form, changes) ← perform changes (mountAll f)
  return ⟨form, changes⟩

/-- The properties of the components that were pushed to, by field. -/
def properties (r : Rehearsal) : NameMap (NameMap Value) :=
  .ofList ((r.form.store.names.zip r.form.registry.sheets).filterMap fun (name, sheet) =>
    if sheet.pushes = 0 then none else some (name, sheet.properties))

/-- The rehearsal as a document. -/
def toJson (r : Rehearsal) : Json :=
  .object [("issues", Json.texts (r.form.issues.map SetupIssue.message)),
    ("changes", .array (r.changes.map fun (a, j) =>
      .object [("field", .text a.name), ("value", a.value.toJson), ("journal", j.toJson)])),
    ("values", .object (r.form.values.map fun (name, v) => (name, v.toJson))),
    ("properties", r.properties.toJson (·.toJson Value.toJson)),
    ("validity", r.form.validate.toJson)]

/-- Lines that belong to a line above them. -/
def indented (lines : List String) : List String :=
  lines.map ("  " ++ ·)

/-- The lines of a change. -/
def changeLines (style : Style) (a : Assignment) (j : Journal) : List String :=
  ("set " ++ a.name ++ " = " ++ style.value a.value) :: indented (j.lines style)

/-- The line of a component. -/
def componentLine (style : Style) (name : String) (properties : NameMap Value) : String :=
  name ++ ": "
    ++ Text.joinWith " " (properties.entries.map fun (property, v) => property ++ "=" ++ style.value v)

/-- The lines of a section, under its title. -/
def titled (style : Style) (title : String) (lines : List String) : List String :=
  style.title title :: indented lines

/-- The lines of the rehearsal. -/
def lines (r : Rehearsal) (style : Style) : List String :=
  let components := r.properties.entries.map fun (name, p) => componentLine style name p
  r.form.issues.map (fun i => style.warnMark ++ " " ++ i.message)
    ++ r.changes.flatMap (fun (a, j) => changeLines style a j)
    ++ titled style "values" (r.form.values.map fun (name, v) => name ++ " = " ++ style.value v)
    ++ (if components.isEmpty then [] else titled style "properties" components)
    ++ titled style "validity" (r.form.validate.lines style)

end Rehearsal

namespace Session

/-- Rehearses changes of a form. -/
def run (s : Session) (name : String) (changes : List Assignment) :
    Except CommandError Outcome := do
  let r ← Rehearsal.of (← s.form name) changes
  return {
    output :=
      if s.options.json then Outcome.text [r.toJson.sorted.pretty]
      else if s.options.quiet then ""
      else Outcome.text (r.lines s.style) }

/-- Seeds values into a form and judges it. -/
def validate (s : Session) (name : String) (values : List Assignment) :
    Except CommandError Outcome := do
  let f ← s.form name
  let f ← (f.loadValues (values.map fun a => (a.name, a.value))).mapError .notSeeded
  let v := f.validate
  return {
    output :=
      if s.options.json then Outcome.text [v.toJson.pretty]
      else if s.options.quiet then ""
      else Outcome.text (v.lines s.style)
    error := if v.valid then none else some .invalidForm }

end Session

end Formulary
