import Formulary.Form.Validity
import Formulary.Terminal.Style

/-!
# Journals and judgements as lines

What a person reads about a change and about the validity of a form. A journal has one line per
event but for the write of the host itself, nested writes indented by their depth.
-/

namespace Formulary

/-- The sign in front of what a change set in motion. -/
def childMark : String := "⎿ "

namespace JournalEntry

/-- The line of an event; none for the write of the host. -/
def line? (style : Style) : JournalEntry → Option String
  | .write _ _ 0 => none
  | .write field value (depth + 1) =>
    some (String.ofList (List.replicate (2 * depth) ' ') ++ childMark ++ "write " ++ field ++ " = "
      ++ style.value value)
  | .suppressed field _ =>
    some (childMark ++ style.muted ("skip " ++ field ++ " (already being written)"))
  | .push target property value =>
    some (childMark ++ "push " ++ target ++ "." ++ property ++ " = " ++ style.value value)
  | .noBinding target property =>
    some (childMark ++ style.muted ("no binding for " ++ target ++ "." ++ property))
  | .failure field program error =>
    some (childMark ++ style.failMark ++ " " ++ field ++ " depsLogic[" ++ toString program ++ "]: "
      ++ error.message)

end JournalEntry

namespace Journal

/-- The lines of a journal. -/
def lines (style : Style) (j : Journal) : List String :=
  j.toList.filterMap (·.line? style)

end Journal

namespace Validity

/-- The lines about the violations of a field. -/
def fieldLines (style : Style) (field : String) (errors : NameMap LengthViolation) : List String :=
  errors.entries.map fun (key, v) =>
    style.failMark ++ " " ++ field ++ ": " ++ key ++ " (required " ++ toString v.required
      ++ ", actual " ++ toString v.actual ++ ")"

/-- The lines of a judgement. -/
def lines (style : Style) (v : Validity) : List String :=
  if v.valid then [style.passMark ++ " valid"]
  else
    v.fieldErrors.entries.flatMap (fun (field, errors) => fieldLines style field errors)
    ++ v.formErrors.map (fun f => style.failMark ++ " " ++ f.validator ++ ": " ++ f.message)
    ++ v.faults.map fun f =>
      style.warnMark ++ " " ++ f.validator ++ " (" ++ f.field ++ "): " ++ f.error.message

end Validity

end Formulary
