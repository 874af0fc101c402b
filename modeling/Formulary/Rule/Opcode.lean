/-!
# Opcodes and contexts

The instruction set of rule programs is closed. Each opcode has a mnemonic, a number of operands it
reads, and operands that name fields; the context a program runs in decides which opcodes it may
execute. What each context permits stands in a table, as the handlers of the machine do, where an
opcode is looked up by its position in the instruction set.
-/

namespace Formulary

/-- An instruction of the rule language. -/
inductive Opcode where
  /-- Jump by an offset if the first operand relates to the second. -/
  | jump
  /-- Write a field. -/
  | set
  /-- Push a property onto a mounted component. -/
  | push
  /-- Set the result of the run and halt. -/
  | result
deriving DecidableEq, Repr

/-- What a program runs for. -/
inductive Context where
  /-- Reacting to a change: fields may be written and properties pushed. -/
  | propagation
  /-- Judging a form: nothing may be changed. -/
  | validation
deriving DecidableEq, Repr

namespace Context

/-- The name of the context in messages. -/
def name : Context → String
  | .propagation => "dependency-propagation"
  | .validation => "validation"

end Context

namespace Opcode

/-- The opcodes in order. -/
def all : List Opcode := [.jump, .set, .push, .result]

/-- How the opcode is written in a program. -/
def mnemonic : Opcode → String
  | .jump => "jrgt"
  | .set => "s"
  | .push => "sp"
  | .result => "setres"

/-- The opcode a mnemonic stands for, if it is in the instruction set. -/
def ofMnemonic? (token : String) : Option Opcode :=
  all.find? (·.mnemonic == token)

/-- The position of the opcode in the instruction set. -/
def index : Opcode → Fin 4
  | .jump => 0
  | .set => 1
  | .push => 2
  | .result => 3

/-- How many operands the opcode reads. -/
def arity : Opcode → Nat
  | .jump => 3
  | .set => 2
  | .push => 3
  | .result => 1

/-- The positions of the operands that may name fields. -/
def fieldOperands : Opcode → List Nat
  | .jump => [0, 1]
  | .set => [0, 1]
  | .push => [0, 2]
  | .result => []

end Opcode

namespace Context

/-- The opcodes permitted in each context, by their positions in the instruction set. Judging may not
change a form, so it has no use for writes and pushes. -/
def policy : List (Context × Vector Bool 4) :=
  --                jrgt  s     sp    setres
  [(.propagation, #v[true, true, true, false]),
    (.validation, #v[true, false, false, true])]

/-- The opcodes a program may execute in a context. -/
def permits (c : Context) (op : Opcode) : Bool :=
  (policy.find? (·.1 = c)).any (·.2.get op.index)

end Context

end Formulary
