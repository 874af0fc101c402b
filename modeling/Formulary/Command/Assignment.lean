import Formulary.Text.Split
import Formulary.Value

/-!
# Assignments on the command line

An assignment is written `NAME=VALUE`. The name ends at the first equals sign and is trimmed; the
value is all the text after it, read as typed input.
-/

namespace Formulary

/-- A value given to a name. -/
structure Assignment where
  name : String
  value : Value
deriving DecidableEq, Repr

/-- Why a text is no assignment. -/
inductive AssignmentError where
  /-- There is no equals sign. -/
  | noEquals (text : String)
  /-- The name in front of the equals sign is blank. -/
  | noName (text : String)
deriving DecidableEq, Repr

namespace AssignmentError

/-- The explanation for people. -/
def message : AssignmentError → String
  | .noEquals text => "expected NAME=VALUE, got '" ++ text ++ "'"
  | .noName text => "missing field name in '" ++ text ++ "'"

end AssignmentError

namespace Assignment

/-- Reads an assignment, its value by a reader of JSON. -/
def parseWith (read : Json.Reader) (text : String) : Except AssignmentError Assignment :=
  match Text.splitFirst? '=' text.toList with
  | none => .error (.noEquals text)
  | some (before, after) =>
    let name := Text.trim before
    if name.isEmpty then .error (.noName text)
    else .ok ⟨String.ofList name, Value.ofInputWith read (String.ofList after)⟩

/-- Reads an assignment. -/
def parse (text : String) : Except AssignmentError Assignment :=
  parseWith Json.read? text

end Assignment

end Formulary
