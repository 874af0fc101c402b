import Formulary.Value

/-!
# The store

The values of a form's fields, in order of declaration. A field is declared once; after that its
value can be replaced, and neither the fields nor their order ever change.
-/

namespace Formulary

/-- Named field values in order of declaration. -/
structure Store where
  fields : List (String × Value) := []
deriving DecidableEq, Repr, Inhabited

namespace Store

/-- The store without fields. -/
def empty : Store := {}

/-- The field names in order of declaration. -/
def names (s : Store) : List String :=
  s.fields.map (·.1)

/-- The value of the first of the entries with a name. -/
def find? (name : String) : List (String × Value) → Option Value
  | [] => none
  | (n, v) :: rest => if n = name then some v else find? name rest

/-- The value of a field, if there is such a field. -/
def get? (s : Store) (name : String) : Option Value :=
  find? name s.fields

/-- There is a field of the name. -/
def contains (s : Store) (name : String) : Bool :=
  (s.get? name).isSome

/-- Replaces the value of the first of the entries with a name. -/
def replace (name : String) (value : Value) : List (String × Value) → List (String × Value)
  | [] => []
  | (n, v) :: rest => if n = name then (n, value) :: rest else (n, v) :: replace name value rest

/-- The store with another value for a field; none if there is no such field. -/
def set? (s : Store) (name : String) (value : Value) : Option Store :=
  if s.contains name then some ⟨replace name value s.fields⟩ else none

/-- The store with one field more; none if the name is declared already. -/
def declare? (s : Store) (name : String) (value : Value) : Option Store :=
  if s.contains name then none else some ⟨s.fields ++ [(name, value)]⟩

/-- Declares the fields one after another; a name declared already keeps its value. -/
def declareAll (s : Store) (fields : List (String × Value)) : Store :=
  fields.foldl (fun s (name, value) => (s.declare? name value).getD s) s

/-- The values of the names asked for, in the order asked, null for those that are no fields. -/
def snapshot (s : Store) (names : List String) : List Value :=
  names.map fun name => (s.get? name).getD .null

end Store

end Formulary
