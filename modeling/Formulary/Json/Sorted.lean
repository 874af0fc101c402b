import Formulary.Json.Basic
import Formulary.NameMap

/-!
# Documents with sorted members

Reports that gather several documents into one list the members of every object by name.
-/

namespace Formulary.Json

mutual

/-- The document with the members of its objects in the order of their names. -/
def sorted : Json → Json
  | .array items => .array (sortedItems items)
  | .object members => .object (NameMap.ofList (sortedMembers members)).entries
  | v => v

/-- The items of an array, each sorted. -/
def sortedItems : List Json → List Json
  | [] => []
  | v :: vs => v.sorted :: sortedItems vs

/-- The members of an object, each sorted. -/
def sortedMembers : List (String × Json) → List (String × Json)
  | [] => []
  | (name, v) :: rest => (name, v.sorted) :: sortedMembers rest

end

end Formulary.Json
