import Formulary.Proofs.Json.Reading
import Formulary.Proofs.Text.Pieces
import Formulary.Value

/-!
# Values as JSON and as typed

Whatever reader of JSON there is, typed input is the value that its trimmed text is read as (`ofInputWith_of_read`),
and a text that is read as none is taken as it is, its blanks included (`ofInputWith_of_unread`).

A value is a JSON document that is no container. The program's own reader takes a text for a value just if it spells
the value, so typed input is the value that its trimmed text spells (`ofInput_of_spells`), or a text if it spells none
(`ofInput_of_not_spells`); and every finite value is spelled by the text that is written for it (`spells_compact`).
-/

namespace Formulary.Value

/-- The value is not a number, or it is a finite one. -/
def Finite (v : Value) : Prop :=
  ∀ x, v = .number x → x.isFinite = true

variable {v : Value} {doc : Json} {cs : List Char} {input : String} {read : Json.Reader}

theorem ofJson?_eq_some_iff : ofJson? doc = some v ↔ doc = v.toJson := by
  constructor
  · intro read
    cases doc <;> cases read <;> rfl
  · rintro rfl
    cases v <;> rfl

theorem plain_toJson (finite : v.Finite) : Json.Plain v.toJson := by
  cases v with
  | null => exact .null
  | number x => exact .number (finite x rfl)
  | text => exact .text

theorem spells_compact (finite : v.Finite) : Json.Spells (Json.compact v.toJson).toList v.toJson := by
  cases v with
  | null => exact .null
  | number x => exact Json.spells_numberText (finite x rfl)
  | text => exact Json.spells_stringText

/-- Typed input is the value that its trimmed text is read as. -/
theorem ofInputWith_of_read (reads : read (Text.trim input.toList) = some v.toJson) :
    ofInputWith read input = v := by
  rw [ofInputWith, reads, Option.bind_some, ofJson?_eq_some_iff.2 rfl, Option.getD_some]

/-- What is read as no value is a text as it is typed. -/
theorem ofInputWith_of_unread (unread : ∀ v : Value, read (Text.trim input.toList) ≠ some v.toJson) :
    ofInputWith read input = .text input := by
  have nothing : (read (Text.trim input.toList)).bind ofJson? = none := by
    refine Option.bind_eq_none_iff.2 fun doc reads => Option.eq_none_iff_forall_ne_some.2 fun v same => ?_
    exact unread v (ofJson?_eq_some_iff.1 same ▸ reads)
  rw [ofInputWith, nothing, Option.getD_none]

/-- A text without blanks around it is read as a value just if it spells the value. -/
theorem read?_eq_toJson_iff (tight : Text.Tight cs) :
    Json.read? cs = some v.toJson ↔ Json.Spells cs v.toJson := by
  have scalar : ¬ Json.Enclosed (.done v.toJson) := by cases v <;> exact not_false
  have valid : v.toJson ≠ .invalid := by cases v <;> exact nofun
  exact Json.read?_eq_some_iff tight scalar valid

/-- **Typed input is the value that its trimmed text spells.** -/
theorem ofInput_of_spells (spells : Json.Spells (Text.trim input.toList) v.toJson) : ofInput input = v :=
  ofInputWith_of_read ((read?_eq_toJson_iff Text.tight_trim).2 spells)

/-- **What spells no value is a text as it is typed.** -/
theorem ofInput_of_not_spells (other : ∀ v : Value, ¬ Json.Spells (Text.trim input.toList) v.toJson) :
    ofInput input = .text input :=
  ofInputWith_of_unread fun v reads => other v ((read?_eq_toJson_iff Text.tight_trim).1 reads)

end Formulary.Value
