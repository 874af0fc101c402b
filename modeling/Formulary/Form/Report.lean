import Formulary.Form.Validity
import Formulary.Json.Writer

/-!
# Journals and judgements as documents

The documents a form hands to other programs: a journal is a list of events, each naming its kind
first, and a judgement lists violations by field and key.
-/

namespace Formulary

namespace JournalEntry

/-- The event as a document. -/
def toJson : JournalEntry → Json
  | .write field value depth =>
    .object [("event", .text "write"), ("field", .text field), ("value", value.toJson),
      ("depth", .count depth)]
  | .suppressed field value =>
    .object [("event", .text "suppressed"), ("field", .text field), ("value", value.toJson)]
  | .push target property value =>
    .object [("event", .text "push"), ("target", .text target), ("property", .text property),
      ("value", value.toJson)]
  | .noBinding target property =>
    .object [("event", .text "no-binding"), ("target", .text target), ("property", .text property)]
  | .failure field program error =>
    .object [("event", .text "failure"), ("field", .text field), ("program", .count program),
      ("kind", .text error.kind), ("error", .text error.message)]

end JournalEntry

namespace Journal

/-- The journal as a document. -/
def toJson (j : Journal) : Json :=
  .array (j.toList.map JournalEntry.toJson)

end Journal

namespace NameMap

/-- A map as a document, its entries as members. -/
def toJson {α : Type} (f : α → Json) (m : NameMap α) : Json :=
  .object (m.entries.map fun (name, a) => (name, f a))

end NameMap

namespace LengthViolation

/-- The violation as a document. -/
def toJson (v : LengthViolation) : Json :=
  .object [("requiredLength", .count v.required), ("actualLength", .count v.actual)]

end LengthViolation

namespace ValidationFailure

/-- The failure as a document. -/
def toJson (f : ValidationFailure) : Json :=
  .object [("validator", .text f.validator), ("message", .text f.message),
    ("marker", f.marker.toJson), ("fields", f.fields.toJson Value.toJson)]

end ValidationFailure

namespace ValidatorFault

/-- The fault as a document. -/
def toJson (f : ValidatorFault) : Json :=
  .object [("field", .text f.field), ("validator", .text f.validator),
    ("kind", .text f.error.kind), ("error", .text f.error.message)]

end ValidatorFault

namespace Validity

/-- The judgement as a document. -/
def toJson (v : Validity) : Json :=
  .object [("valid", .bool v.valid),
    ("fieldErrors", v.fieldErrors.toJson (·.toJson LengthViolation.toJson)),
    ("formErrors", .array (v.formErrors.map ValidationFailure.toJson)),
    ("faults", .array (v.faults.map ValidatorFault.toJson))]

end Validity

end Formulary
