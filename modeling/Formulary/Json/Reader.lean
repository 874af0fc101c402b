import Formulary.Json.Token

/-!
# Reading JSON

The grammar is a machine over tokens with a stack of open containers: `Json.State.step` says what
each token does in each state, and a text is a document when its tokens lead from the start to a
finished value.
-/

namespace Formulary.Json

/-- A container whose closing mark has not been read; its parts so far are in reverse. -/
inductive Open where
  | array (items : List Json)
  | object (members : List (String × Json)) (name : String)

/-- What may come next, inside the open containers `outer`, innermost first. -/
inductive State where
  /-- A value. -/
  | value (outer : List Open)
  /-- The first item of an array, or its end. -/
  | firstItem (outer : List Open)
  /-- The first key of an object, or its end. -/
  | firstKey (outer : List Open)
  /-- The next key of an object with these members. -/
  | key (members : List (String × Json)) (outer : List Open)
  /-- The colon after a key. -/
  | colon (members : List (String × Json)) (name : String) (outer : List Open)
  /-- A comma or the end of the innermost container, after a value in it. -/
  | after (inner : Open) (outer : List Open)
  /-- Nothing: the document is complete. -/
  | done (document : Json)

namespace State

/-- A value has been read inside the containers `outer`. -/
def close (v : Json) : List Open → State
  | [] => .done v
  | .array items :: outer => .after (.array (v :: items)) outer
  | .object members name :: outer => .after (.object ((name, v) :: members) name) outer

/-- A value starts with this token, inside the containers `outer`. -/
def start (outer : List Open) : Token → Option State
  | .scalar v => some (close v outer)
  | .openArray => some (.firstItem outer)
  | .openObject => some (.firstKey outer)
  | _ => none

/-- The state after one more token; none if the token may not stand here. -/
def step : State → Token → Option State
  | .value outer, t => start outer t
  | .firstItem outer, .closeArray => some (close (.array []) outer)
  | .firstItem outer, t => start (.array [] :: outer) t
  | .firstKey outer, .closeObject => some (close (.object []) outer)
  | .firstKey outer, .scalar (.text name) => some (.colon [] name outer)
  | .key members outer, .scalar (.text name) => some (.colon members name outer)
  | .colon members name outer, .colon => some (.value (.object members name :: outer))
  | .after (.array items) outer, .comma => some (.value (.array items :: outer))
  | .after (.array items) outer, .closeArray => some (close (.array items.reverse) outer)
  | .after (.object members _) outer, .comma => some (.key members outer)
  | .after (.object members _) outer, .closeObject => some (close (.object members.reverse) outer)
  | _, _ => none

end State

/-- The document a text denotes, if it is one document with nothing but blanks around it. -/
def read? (cs : List Char) : Option Json := do
  let tokens ← tokens? cs
  match ← tokens.foldlM State.step (.value []) with
  | .done v => some v
  | _ => none

end Formulary.Json
