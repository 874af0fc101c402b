import Formulary.Proofs.Rule.Operand

/-!
# Defects of rows

What can go wrong when a row runs can be read off the row, given the context of the run and the
names of the declared fields: `Row.Defect` says of an error what is wrong with the row it blames. A
row that fails before its host is asked for anything has the defect its error names
(`Machine.defect_of_demand`). What a whole run may end in is one of these or the step limit
(`Program.MayFail`).
-/

namespace Formulary

namespace Context

/-- The opcodes a program may not execute in a context. -/
def forbidden : Context → List Opcode
  | .propagation => [.result]
  | .validation => [.set, .push]

theorem mem_forbidden_iff {context : Context} {op : Opcode} :
    op ∈ context.forbidden ↔ context.permits op = false := by
  cases context <;> cases op <;> decide

end Context

/-- What is wrong with a row of a program, as far as the row, its index, the context and the names of
the declared fields tell, for each error that blames the row. -/
inductive Row.Defect (context : Context) (names : List String) (index : Nat) (row : Row) :
    RuleError → Prop where
  | unknownOpcode (unknown : row.opcode? = none) :
      Defect context names index row (.unknownOpcode index row.mnemonic)
  | forbiddenOpcode {op} (ofOpcode : row.opcode? = some op) (forbidden : op ∈ context.forbidden) :
      Defect context names index row (.forbiddenOpcode index op context)
  | missingOperand {op} (ofOpcode : row.opcode? = some op) (short : row.operands.length < op.arity) :
      Defect context names index row (.missingOperand index op op.arity row.operands.length)
  | invalidOffset {offset} (ofOpcode : row.opcode? = some .jump)
      (third : row.operands[2]? = some offset) (unread : Machine.offset? offset = none) :
      Defect context names index row (.invalidOffset index offset)
  | missingValue {operand} (reads : operand ∈ row.valueOperands) (undeclared : operand ∉ names)
      (unread : Machine.literal? operand = none) :
      Defect context names index row (.missingField index operand)
  | missingTarget {target} (ofOpcode : row.opcode? = some .set)
      (first : row.operands[0]? = some target) (undeclared : target ∉ names) :
      Defect context names index row (.missingField index target)

namespace Program

/-- A row of the program has the defect the error names. -/
def Explains (p : Program) (context : Context) (names : List String) (e : RuleError) : Prop :=
  ∃ index row, p.rows[index]? = some row ∧ Row.Defect context names index row e

/-- A run of the program may end in the error: it is the step limit, or a row has the defect. -/
def MayFail (p : Program) (options : RunOptions) (context : Context) (names : List String)
    (e : RuleError) : Prop :=
  e = .stepLimit options.maxSteps ∨ p.Explains context names e

/-- No row of the program has a defect. -/
def Flawless (p : Program) (context : Context) (names : List String) : Prop :=
  ∀ e, ¬ p.Explains context names e

end Program

namespace Row.Defect

variable {context : Context} {names : List String} {index : Nat} {row : Row} {e : RuleError}

theorem ne_stepLimit (h : Defect context names index row e) (limit : Nat) : e ≠ .stepLimit limit := by
  cases h <;> simp

theorem ne_readOnly (h : Defect context names index row e) (i : Nat) : e ≠ .readOnly i := by
  cases h <;> simp

theorem ne_emptyRow (h : Defect context names index row e) (i : Nat) : e ≠ .emptyRow i := by
  cases h <;> simp

end Row.Defect

namespace Program.MayFail

variable {p : Program} {options : RunOptions} {context : Context} {names : List String} {e : RuleError}

theorem ne_readOnly (h : p.MayFail options context names e) (i : Nat) : e ≠ .readOnly i := by
  rcases h with rfl | ⟨index, row, -, defect⟩
  · simp
  · exact defect.ne_readOnly i

theorem ne_emptyRow (h : p.MayFail options context names e) (i : Nat) : e ≠ .emptyRow i := by
  rcases h with rfl | ⟨index, row, -, defect⟩
  · simp
  · exact defect.ne_emptyRow i

/-- A program without defects fails by the step limit alone. -/
theorem eq_stepLimit (h : p.MayFail options context names e) (flawless : p.Flawless context names) :
    e = .stepLimit options.maxSteps := by
  rcases h with limit | explained
  · exact limit
  · exact (flawless e explained).elim

end Program.MayFail

namespace Machine

variable {σ : Type} {host : Host σ} {s : σ} {index : Nat} {relation : Relation} {context : Context}
  {row : Row} {e : RuleError} {names : List String}

theorem of_resolve_error {operand : String} (h : resolve host s index operand = .error e) :
    host.read s operand = none ∧ literal? operand = none ∧ e = .missingField index operand := by
  unfold resolve at h
  split at h
  · cases h
  · rename_i absent
    split at h
    · cases h
    · rename_i unread
      cases h
      exact ⟨absent, unread, rfl⟩

theorem of_jump_error {a b offset : String} (h : jump host relation s index a b offset = .error e) :
    resolve host s index a = .error e ∨ resolve host s index b = .error e ∨
      offset? offset = none ∧ e = .invalidOffset index offset := by
  unfold jump at h
  cases first : resolve host s index a with
  | error e' =>
    rw [first] at h
    cases h
    exact .inl rfl
  | ok x =>
    cases second : resolve host s index b with
    | error e' =>
      rw [first, second] at h
      cases h
      exact .inr (.inl rfl)
    | ok y =>
      rw [first, second] at h
      cases read : offset? offset with
      | none =>
        simp only [read] at h
        cases h
        exact .inr (.inr ⟨rfl, rfl⟩)
      | some n =>
        simp only [read] at h
        cases h

/-- An operand that cannot be resolved is neither a declared field nor a literal. -/
theorem defect_of_resolve (declared : ∀ name ∈ names, (host.read s name).isSome = true)
    {operand : String} (reads : operand ∈ row.valueOperands)
    (h : resolve host s index operand = .error e) : Row.Defect context names index row e := by
  obtain ⟨absent, unread, rfl⟩ := of_resolve_error h
  have undeclared : operand ∉ names := by
    intro among
    have present := declared operand among
    rw [absent] at present
    cases present
  exact .missingValue reads undeclared unread

/-- Operands that fit no opcode's pattern are too few. -/
theorem short_of_unmatched {op : Opcode} {operands : List String}
    (notJump : ∀ a b offset rest, op = .jump → operands = a :: b :: offset :: rest → False)
    (notSet : ∀ target source rest, op = .set → operands = target :: source :: rest → False)
    (notPush : ∀ target property source rest, op = .push →
      operands = target :: property :: source :: rest → False)
    (notResult : ∀ marker rest, op = .result → operands = marker :: rest → False) :
    operands.length < op.arity := by
  cases op with
  | jump =>
    match operands with
    | [] | [_] | [_, _] => simp [Opcode.arity]
    | a :: b :: offset :: rest => exact (notJump a b offset rest rfl rfl).elim
  | set =>
    match operands with
    | [] | [_] => simp [Opcode.arity]
    | target :: source :: rest => exact (notSet target source rest rfl rfl).elim
  | push =>
    match operands with
    | [] | [_] | [_, _] => simp [Opcode.arity]
    | target :: property :: source :: rest => exact (notPush target property source rest rfl rfl).elim
  | result =>
    match operands with
    | [] => simp [Opcode.arity]
    | marker :: rest => exact (notResult marker rest rfl rfl).elim

/-- **A row that fails before it asks its host for anything has the defect its error names**, given
names of fields the host declares. -/
theorem defect_of_demand (declared : ∀ name ∈ names, (host.read s name).isSome = true)
    (h : demand host relation context s index row = .answer (.error e)) :
    Row.Defect context names index row e := by
  cases ofOpcode : row.opcode? with
  | none =>
    simp only [demand, ofOpcode] at h
    cases h
    exact .unknownOpcode ofOpcode
  | some op =>
    by_cases permitted : context.permits op = true
    · simp only [demand, ofOpcode, permitted, if_true] at h
      unfold demandOf at h
      split at h
      · rename_i a b offset rest operands
        have fails : jump host relation s index a b offset = .error e := by simpa using h
        have reads := Row.valueOperands_of_jump ofOpcode operands
        rcases of_jump_error fails with first | second | ⟨unread, rfl⟩
        · exact defect_of_resolve declared (by rw [reads]; simp) first
        · exact defect_of_resolve declared (by rw [reads]; simp) second
        · exact .invalidOffset ofOpcode (by rw [operands]; rfl) unread
      · rename_i target source rest operands
        unfold demandWrite at h
        split at h
        · cases h
        · rename_i e' unresolved
          cases h
          refine defect_of_resolve declared ?_ unresolved
          rw [Row.valueOperands_of_set ofOpcode operands]
          exact List.mem_singleton_self source
      · rename_i target property source rest operands
        unfold demandPush at h
        split at h
        · cases h
        · rename_i e' unresolved
          cases h
          refine defect_of_resolve declared ?_ unresolved
          rw [Row.valueOperands_of_push ofOpcode operands]
          exact List.mem_singleton_self source
      · cases h
      · rename_i notJump notSet notPush notResult
        cases h
        exact .missingOperand ofOpcode (short_of_unmatched notJump notSet notPush notResult)
    · simp only [demand, ofOpcode, permitted] at h
      cases h
      exact .forbiddenOpcode ofOpcode (Context.mem_forbidden_iff.2 (by simpa using permitted))

end Machine

end Formulary
