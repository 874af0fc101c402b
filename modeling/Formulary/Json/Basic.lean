import Formulary.Number.Decimal

/-!
# JSON documents

A document keeps the members of an object in the order written, repetitions included, because a
form definition refuses a repeated member. What is written correctly but denotes nothing (a number
beyond the range of the format, a string with an unpaired surrogate) is `invalid`: skipping such a
member is fine, reading it is not.

A number that counts things, `count`, occurs only in documents to be written; it has no point.
-/

namespace Formulary

/-- A JSON document. -/
inductive Json where
  | null
  | bool (b : Bool)
  | number (n : Number)
  | count (n : Nat)
  | text (s : String)
  | invalid
  | array (items : List Json)
  | object (members : List (String × Json))
deriving Inhabited

/-- A reader of JSON: the document a text denotes, if it is the text of one. -/
abbrev Json.Reader : Type := List Char → Option Json

end Formulary
