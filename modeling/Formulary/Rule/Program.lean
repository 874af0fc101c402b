import Formulary.Rule.Error
import Formulary.Text.Blank
import Formulary.Text.Split

/-!
# Rule programs

A program is a list of rows, a row a mnemonic with its operands. `Program.compile` reads the source:
rows end at semicolons, blanks around a row do not count, and tokens are separated by spaces. Only
the shape is checked; what a mnemonic means and whether it may be executed is decided when its row
runs. `Program.text` writes a program in the notation that compiles to it again.
-/

namespace Formulary

/-- One row of a program as written. -/
structure Row where
  mnemonic : String
  operands : List String
deriving DecidableEq, Repr

/-- A compiled rule program. -/
structure Program where
  rows : List Row
deriving DecidableEq, Repr, Inhabited

namespace Row

/-- The opcode of the row, if its mnemonic is in the instruction set. -/
def opcode? (r : Row) : Option Opcode :=
  Opcode.ofMnemonic? r.mnemonic

/-- The mnemonic followed by the operands. -/
def tokens (r : Row) : List String :=
  r.mnemonic :: r.operands

/-- The row in the notation of the source. -/
def text (r : Row) : String :=
  Text.joinWith " " r.tokens

/-- The row written in a segment of the source, unless the segment has no tokens. -/
def ofSegment? (segment : List Char) : Option Row :=
  match (Text.words ' ' (Text.trim segment)).map String.ofList with
  | [] => none
  | mnemonic :: operands => some ⟨mnemonic, operands⟩

/-- The operands that may name fields; all of them if the mnemonic is unknown. -/
def fieldOperands (r : Row) : List String :=
  match r.opcode? with
  | some op => op.fieldOperands.filterMap fun i => r.operands[i]?
  | none => r.operands

end Row

namespace Program

/-- Compiles the segments of a source, the first of which has the given index. -/
def ofSegments (index : Nat) : List (List Char) → Except RuleError (List Row)
  | [] => .ok []
  | segment :: rest =>
    match Row.ofSegment? segment with
    | none => .error (.emptyRow index)
    | some row => (ofSegments (index + 1) rest).map (row :: ·)

/-- Compiles the source of a program; the first row without tokens is an error. -/
def compile (source : String) : Except RuleError Program :=
  (ofSegments 0 (Text.segments ';' source.toList)).map Program.mk

/-- The number of rows. -/
def length (p : Program) : Nat :=
  p.rows.length

/-- The program in the notation of the source. -/
def text (p : Program) : String :=
  Text.joinWith ";" (p.rows.map Row.text)

/-- Adds a name at the end unless it is there. -/
def addName (names : List String) (name : String) : List String :=
  if names.contains name then names else names ++ [name]

/-- The operands that may name fields, in order of first appearance. -/
def referencedNames (p : Program) : List String :=
  (p.rows.flatMap Row.fieldOperands).foldl addName []

end Program

end Formulary
