import Formulary.Command.Session
import Formulary.Json.Sorted
import Formulary.Json.Writer

/-!
# Inspections of definitions

An inspection shows the fields of a definition with what they depend on, and the issues that setting
up its form brings to light.
-/

namespace Formulary

/-- A definition in a file with its issues. -/
structure Inspection where
  path : String
  definition : FormDefinition
  issues : List String

namespace Inspection

/-- Sets up the form of a definition and notes the issues; a form that cannot be built is one. -/
def of (path : String) (d : FormDefinition) (options : RunOptions) : Inspection :=
  ⟨path, d, match Form.build d options with
    | .ok f => f.issues.map SetupIssue.message
    | .error e => [e.message]⟩

/-- The document of a field. -/
def fieldJson (f : FieldDefinition) : Json :=
  .object [("name", .text f.name), ("dependsOn", Json.texts (f.dependencies.getD [])),
    ("programs", .count (f.programs.getD []).length),
    ("validators", Json.texts (f.validators.map (·.name)))]

/-- The inspection as a document. -/
def toJson (i : Inspection) : Json :=
  .object [("form", .text i.definition.name), ("path", .text i.path),
    ("fields", .array (i.definition.fields.map fieldJson)), ("issues", Json.texts i.issues),
    ("ok", .bool i.issues.isEmpty)]

/-- The line of a field. -/
def fieldLine (style : Style) (f : FieldDefinition) : String :=
  let dependencies := f.dependencies.getD []
  let programs := (f.programs.getD []).length
  "  " ++ f.name
    ++ (if dependencies.isEmpty then "" else " <- " ++ Text.joinWith ", " dependencies)
    ++ (if programs = 0 then "" else style.muted ("  programs: " ++ toString programs))
    ++ (if f.validators.isEmpty then ""
        else style.muted ("  validators: " ++ Text.joinWith ", " (f.validators.map (·.name))))

/-- The heading, with the name of the form. -/
def heading (i : Inspection) (style : Style) : String :=
  let title := if i.definition.name.isEmpty then "form" else i.definition.name
  style.title title ++ " (" ++ toString i.definition.fields.length ++ " fields)"

/-- The lines of the inspection. -/
def lines (i : Inspection) (style : Style) : List String :=
  [i.heading style] ++ i.definition.fields.map (fieldLine style)
    ++ (if i.issues.isEmpty then [style.passMark ++ " no issues"] else [])
    ++ i.issues.map fun issue => style.failMark ++ " " ++ issue

/-- Why the inspection is a failure: issues were found. -/
def error? (i : Inspection) : Option CommandError :=
  if i.issues.isEmpty then none else some (.setupIssues i.issues.length i.path)

end Inspection

namespace Session

/-- Inspects the definition of a form. -/
def check (s : Session) (name : String) : Except CommandError Outcome := do
  let settings ← s.settings
  let (path, d) ← s.definition name
  let i := Inspection.of path d settings.runOptions
  return {
    output :=
      if s.options.json then Outcome.text [i.toJson.sorted.pretty]
      else if s.options.quiet then ""
      else Outcome.text (i.lines s.style)
    error := i.error? }

end Session

end Formulary
