import Formulary.Rule.Host
import Formulary.Rule.Program

/-!
# Running rule programs

The machine executes rows one after another, starting with the first, until control leaves the
program, a row halts it, or a row fails. Operands are resolved when their row runs: an operand is
the live value of the field of that name, else a numeric literal. Every row executed costs one step
of the limit; what happened before a failure stays.

The recursion of `Machine.loop` is on the steps left, so a program that jumps backwards for ever
ends with the step limit.
-/

namespace Formulary

/-- The relation a jump tests. -/
inductive Relation where
  | greaterOrEqual
  | greater
deriving DecidableEq, Repr, Inhabited

namespace Relation

/-- The name of the relation in settings. -/
def name : Relation → String
  | .greaterOrEqual => "greater-or-equal"
  | .greater => "greater"

/-- The relation of a name. -/
def ofName? (s : String) : Option Relation :=
  [greaterOrEqual, greater].find? (·.name == s)

/-- The relation between two numbers; false if either is not a number. -/
def holds : Relation → Number → Number → Bool
  | .greaterOrEqual => Number.atLeast
  | .greater => Number.exceeds

end Relation

/-- What every run has in common: the step limit and the relation jumps test. -/
structure RunOptions where
  maxSteps : Nat := 10000
  relation : Relation := .greaterOrEqual
deriving DecidableEq, Repr, Inhabited

/-- Where a run stands: the row about to be executed, the result set so far, and the rows executed
so far. -/
structure RunState where
  context : Context
  row : Nat := 0
  result : Option Value := none
  steps : Nat := 0
deriving DecidableEq, Repr

/-- Where control goes after a row. -/
inductive Flow where
  | next
  | jump (offset : Int)
  | halt (result : Value)
deriving DecidableEq, Repr

namespace Machine

/-- Offsets are words of 64 bits: greater ones count as the greatest, lesser ones as the least. -/
def clampOffset (n : Int) : Int :=
  max Int64.minValue.toInt (min n Int64.maxValue.toInt)

/-- The row a jump leads to: `row + offset` if the program has such a row, else its end. -/
def jumpTarget (length row : Nat) (offset : Int) : Nat :=
  let target := (row : Int) + clampOffset offset
  if 0 ≤ target ∧ target < length ∧ target ≤ Int64.maxValue.toInt then target.toNat else length

/-- A token that starts like a number. -/
def startsLikeNumber (token : String) : Bool :=
  match token.toList with
  | [] => false
  | c :: _ => c.isDigit || c = '-' || c = '+' || c = '.'

/-- The number a token denotes, if it is a numeric literal. -/
def literal? (token : String) : Option Number :=
  if startsLikeNumber token then Number.ofText? token.toList else none

/-- The offset a token denotes: a number, with an exponent or a point if need be, that is an
integer. -/
def offset? (token : String) : Option Int :=
  (Number.ofText? token.toList).bind Number.toInt?

variable {σ : Type} (host : Host σ)

/-- The value of an operand of the row: the live value of the field of that name, else a numeric
literal. -/
def resolve (s : σ) (row : Nat) (operand : String) : Except RuleError Value :=
  match host.read s operand with
  | some v => .ok v
  | none =>
    match literal? operand with
    | some n => .ok (.number n)
    | none => .error (.missingField row operand)

/-- Executes a jump. The offset is read even if the relation does not hold. -/
def jump (relation : Relation) (s : σ) (row : Nat) (a b offset : String) : Except RuleError Flow := do
  let x ← resolve host s row a
  let y ← resolve host s row b
  match offset? offset with
  | none => .error (.invalidOffset row offset)
  | some n => return if relation.holds x.toNumber y.toNumber then .jump n else .next

/-- Executes a write. -/
def set (s : σ) (row : Nat) (target source : String) : Except RuleError Flow × σ :=
  match resolve host s row source with
  | .error e => (.error e, s)
  | .ok v =>
    match host.write s target v with
    | (.applied, s) => (.ok .next, s)
    | (.suppressed, s) => (.ok .next, s)
    | (.unknownField, s) => (.error (.missingField row target), s)
    | (.refused, s) => (.error (.readOnly row), s)

/-- Executes a push. -/
def push (s : σ) (row : Nat) (target property source : String) : Except RuleError Flow × σ :=
  match resolve host s row source with
  | .error e => (.error e, s)
  | .ok v =>
    match host.push s target property v with
    | (.delivered, s) => (.ok .next, s)
    | (.noBinding, s) => (.ok .next, s)
    | (.refused, s) => (.error (.readOnly row), s)

/-- The operand at a position. A row that lacks operands of its opcode is not handled, so there is one. -/
def operand (operands : List String) (position : Nat) : String :=
  operands.getD position ""

/-- What a row with some operands does, if its opcode may be executed and lacks no operand. -/
abbrev Handler (σ : Type) : Type :=
  (s : σ) → (row : Nat) → (operands : List String) → Except RuleError Flow × σ

/-- The handlers of the opcodes, by their positions in the instruction set. -/
def handlers (relation : Relation) : Vector (Handler σ) 4 :=
  #v[fun s row xs => (jump host relation s row (operand xs 0) (operand xs 1) (operand xs 2), s),
    fun s row xs => set host s row (operand xs 0) (operand xs 1),
    fun s row xs => push host s row (operand xs 0) (operand xs 1) (operand xs 2),
    fun s _ xs => (.ok (.halt (Value.ofInput (operand xs 0))), s)]

/-- Executes an opcode with the operands of its row. -/
def perform (relation : Relation) (s : σ) (row : Nat) (op : Opcode) (operands : List String) :
    Except RuleError Flow × σ :=
  if operands.length < op.arity then (.error (.missingOperand row op op.arity operands.length), s)
  else (handlers host relation).get op.index s row operands

/-- Executes a row in a context. -/
def execute (relation : Relation) (context : Context) (s : σ) (index : Nat) (row : Row) :
    Except RuleError Flow × σ :=
  match row.opcode? with
  | none => (.error (.unknownOpcode index row.mnemonic), s)
  | some op =>
    if context.permits op then perform host relation s index op row.operands
    else (.error (.forbiddenOpcode index op context), s)

/-- The state of the run after a row of a program of the given length. -/
def advance (length : Nat) (c : RunState) : Flow → RunState
  | .next => { c with row := c.row + 1, steps := c.steps + 1 }
  | .jump offset => { c with row := jumpTarget length c.row offset, steps := c.steps + 1 }
  | .halt v => { c with row := length, steps := c.steps + 1, result := some v }

/-- Executes rows until control leaves the program, with `budget` steps left. -/
def loop (options : RunOptions) (p : Program) :
    (budget : Nat) → RunState → σ → Except RuleError RunState × σ
  | 0, c, s =>
    match p.rows[c.row]? with
    | none => (.ok c, s)
    | some _ => (.error (.stepLimit options.maxSteps), s)
  | budget + 1, c, s =>
    match p.rows[c.row]? with
    | none => (.ok c, s)
    | some row =>
      match execute host options.relation c.context s c.row row with
      | (.error e, s) => (.error e, s)
      | (.ok flow, s) => loop options p budget (advance p.length c flow) s

/-- Runs a program from its first row. The steps already counted in the starting state count
against the limit. -/
def run (options : RunOptions) (p : Program) (c : RunState) (s : σ) : Except RuleError RunState × σ :=
  loop host options p (options.maxSteps - c.steps) { c with row := 0 } s

end Machine

end Formulary
