import Formulary.Command.Session
import Formulary.Json.Sorted
import Formulary.Json.Writer

/-!
# Listings of programs

A listing shows the rows of a program one by one, with what keeps a row from running: an unknown
opcode, or one that the context asked about does not permit.
-/

namespace Formulary

/-- What keeps a row from running. -/
inductive RowProblem where
  | unknownOpcode
  | notAllowed (context : Context)
deriving DecidableEq, Repr

namespace RowProblem

/-- The problem in words. -/
def message : RowProblem → String
  | .unknownOpcode => "unknown opcode"
  | .notAllowed context => "not allowed in " ++ context.name

/-- What keeps a row from running, in a context if one is given. -/
def of? (context : Option Context) (row : Row) : Option RowProblem :=
  match row.opcode? with
  | none => some .unknownOpcode
  | some op => (context.filter (!·.permits op)).map .notAllowed

end RowProblem

namespace Context

/-- The name of a context in listings. -/
def shortName : Context → String
  | .propagation => "propagation"
  | .validation => "validation"

end Context

/-- A program listed for a context or for none. -/
structure Listing where
  program : Program
  context : Option Context

namespace Listing

/-- The line of the row with an index. -/
def line (l : Listing) (style : Style) (row : Row) (index : Nat) : String :=
  let mnemonic := match row.opcode? with
    | some op => style.opcode op
    | none => style.unknownOpcode row.mnemonic
  let problem := match RowProblem.of? l.context row with
    | some p => "  " ++ style.failMark ++ " " ++ p.message
    | none => ""
  toString index ++ ": " ++ Text.joinWith " " (mnemonic :: row.operands) ++ problem

/-- The lines of the rows. -/
def lines (l : Listing) (style : Style) : List String :=
  l.program.rows.mapIdx fun i row => l.line style row i

/-- The document of the row with an index. -/
def rowJson (l : Listing) (row : Row) (index : Nat) : Json :=
  .object <|
    [("row", .count index), ("mnemonic", .text row.mnemonic), ("operands", Json.texts row.operands),
      ("known", .bool row.opcode?.isSome)]
    ++ Json.optionalMember "allowed"
      (l.context.map fun _ => .bool (RowProblem.of? l.context row).isNone)

/-- The listing as a document. -/
def toJson (l : Listing) : Json :=
  .object [("context", (l.context.map fun c => Json.text c.shortName).getD .null),
    ("rows", .array (l.program.rows.mapIdx fun i row => l.rowJson row i))]

/-- The number of rows that cannot run. -/
def rejected (l : Listing) : Nat :=
  (l.program.rows.filter fun row => (RowProblem.of? l.context row).isSome).length

/-- Why the listing is a failure: rows that cannot run in the context it is for. -/
def error? (l : Listing) : Option CommandError :=
  match l.context, l.rejected with
  | none, _ => none
  | some _, 0 => none
  | some c, n => some (.rowsRejected n l.program.length c)

/-- The line that says all is well. -/
def closing (l : Listing) (style : Style) : List String :=
  match l.context, l.error? with
  | some c, none => [style.passMark ++ " all rows allowed in " ++ c.name ++ " context"]
  | _, _ => []

end Listing

namespace Session

/-- Lists the rows of a program. -/
def compile (s : Session) (source : String) (context : Option Context) : Outcome :=
  match Program.compile source with
  | .error e => .failed (.program e)
  | .ok program =>
    let l : Listing := ⟨program, context⟩
    { output :=
        if s.options.json then Outcome.text [l.toJson.sorted.pretty]
        else Outcome.text (l.lines s.style ++ if s.options.quiet then [] else l.closing s.style)
      error := l.error? }

end Session

end Formulary
