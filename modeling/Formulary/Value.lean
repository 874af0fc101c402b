import Formulary.Text.Blank
import Formulary.Json.Reader
import Formulary.Json.Writer

/-!
# Field values

A value is nothing yet, a number or a text; it is all that flows between fields, rules and mounted
components. Rules compare values as numbers: nothing counts as zero, a text counts as the number it
reads as once trimmed, and a text that reads as none is not a number.
-/

namespace Formulary

/-- The value of a field. -/
inductive Value where
  | null
  | number (n : Number)
  | text (s : String)
deriving DecidableEq, Repr

namespace Value

instance : Inhabited Value := ⟨.null⟩

/-- The number a value counts as in comparisons. -/
def toNumber : Value → Number
  | .null => .zero
  | .number n => n
  | .text s =>
    let cs := Text.trim s.toList
    if cs.isEmpty then .zero else (Number.ofText? cs).getD .nan

/-- Neither null, zero, not-a-number nor the empty text. -/
def isTruthy : Value → Bool
  | .null => false
  | .number n => n.position.any (· ≠ 0)
  | .text s => !s.isEmpty

/-- The number of characters of a text. -/
def textLength? : Value → Option Nat
  | .text s => some s.length
  | _ => none

/-- Equality of values, numbers by their place on the line: not-a-number differs from itself. -/
def equals : Value → Value → Bool
  | .null, .null => true
  | .number a, .number b => a.equals b
  | .text s, .text t => s == t
  | _, _ => false

/-- The value as it is shown to people. -/
def toText : Value → String
  | .null => "null"
  | .number n => n.toText
  | .text s => s

/-- The value as a JSON document. -/
def toJson : Value → Json
  | .null => .null
  | .number n => .number n
  | .text s => .text s

/-- The value a JSON document denotes: nothing, a number or a text. -/
def ofJson? : Json → Option Value
  | .null => some .null
  | .number n => some (.number n)
  | .text s => some (.text s)
  | _ => none

/-- The value typed by a user, as far as a reader of JSON tells: what the trimmed text denotes if that
is a value, and the text as typed otherwise. -/
def ofInputWith (read : Json.Reader) (input : String) : Value :=
  ((read (Text.trim input.toList)).bind ofJson?).getD (.text input)

/-- The value typed by a user. -/
def ofInput (input : String) : Value :=
  ofInputWith Json.read? input

end Value

end Formulary
