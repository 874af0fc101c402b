import Formulary.Rule.Machine

/-!
# What a row demands of its host

A row asks its host for at most one thing, a write or a push, and reads everything it needs before.
`demand` is the part of a row that only reads; `execute_eq_settle` says that executing a row is
settling its demand, so what a run does to a host is known from the demands of its rows. The tables of
what is permitted and of the handlers are in line with the instruction set (`Context.permits_eq`,
`perform_eq`), and nothing else looks into them.
-/

namespace Formulary

/-- **The policy table is in line with the instruction set**: what changes a form is for propagation, and
what gives a result for validation. -/
theorem Context.permits_eq {context : Context} {op : Opcode} :
    context.permits op =
      match context, op with
      | .propagation, .result => false
      | .propagation, _ => true
      | .validation, .jump => true
      | .validation, .result => true
      | .validation, _ => false := by
  cases context <;> cases op <;> rfl

namespace Machine

/-- What a row comes to before its host is asked for anything. -/
inductive Demand where
  /-- Nothing is asked of the host. -/
  | answer (flow : Except RuleError Flow)
  | write (target : String) (value : Value)
  | push (target property : String) (value : Value)

/-- Where control goes after a write of a row, given the answer of the host. -/
def afterWrite (row : Nat) (target : String) : WriteOutcome → Except RuleError Flow
  | .applied => .ok .next
  | .suppressed => .ok .next
  | .unknownField => .error (.missingField row target)
  | .refused => .error (.readOnly row)

/-- Where control goes after a push of a row, given the answer of the host. -/
def afterPush (row : Nat) : PushOutcome → Except RuleError Flow
  | .delivered => .ok .next
  | .noBinding => .ok .next
  | .refused => .error (.readOnly row)

variable {σ : Type}

section

variable (host : Host σ)

/-- What a write comes to. -/
def demandWrite (s : σ) (row : Nat) (target source : String) : Demand :=
  match resolve host s row source with
  | .ok v => .write target v
  | .error e => .answer (.error e)

/-- What a push comes to. -/
def demandPush (s : σ) (row : Nat) (target property source : String) : Demand :=
  match resolve host s row source with
  | .ok v => .push target property v
  | .error e => .answer (.error e)

/-- What an opcode with the operands of its row comes to. -/
def demandOf (relation : Relation) (s : σ) (row : Nat) : Opcode → List String → Demand
  | .jump, a :: b :: offset :: _ => .answer (jump host relation s row a b offset)
  | .set, target :: source :: _ => demandWrite host s row target source
  | .push, target :: property :: source :: _ => demandPush host s row target property source
  | .result, marker :: _ => .answer (.ok (.halt (Value.ofInput marker)))
  | op, operands => .answer (.error (.missingOperand row op op.arity operands.length))

/-- What a row comes to in a context. -/
def demand (relation : Relation) (context : Context) (s : σ) (index : Nat) (row : Row) : Demand :=
  match row.opcode? with
  | none => .answer (.error (.unknownOpcode index row.mnemonic))
  | some op =>
    if context.permits op then demandOf host relation s index op row.operands
    else .answer (.error (.forbiddenOpcode index op context))

/-- Puts a demand to the host. -/
def settle (s : σ) (index : Nat) : Demand → Except RuleError Flow × σ
  | .answer flow => (flow, s)
  | .write target v => (afterWrite index target (host.write s target v).1, (host.write s target v).2)
  | .push target property v =>
    (afterPush index (host.push s target property v).1, (host.push s target property v).2)

end

variable {host : Host σ} {s : σ} {index : Nat} {relation : Relation} {context : Context}

theorem set_eq_settle {target source : String} :
    set host s index target source =
      settle host s index (demandWrite host s index target source) := by
  unfold set demandWrite
  cases resolve host s index source with
  | error e => rfl
  | ok v =>
    simp only [settle]
    generalize host.write s target v = answer
    obtain ⟨outcome, s'⟩ := answer
    cases outcome <;> rfl

theorem push_eq_settle {target property source : String} :
    push host s index target property source =
      settle host s index (demandPush host s index target property source) := by
  unfold push demandPush
  cases resolve host s index source with
  | error e => rfl
  | ok v =>
    simp only [settle]
    generalize host.push s target property v = answer
    obtain ⟨outcome, s'⟩ := answer
    cases outcome <;> rfl

/-- **The table of handlers is in line with the instruction set**: each opcode has its own handler, and none
reads an operand that the row may lack. -/
theorem perform_eq {op : Opcode} {operands : List String} :
    perform host relation s index op operands =
      match op, operands with
      | .jump, a :: b :: offset :: _ => (jump host relation s index a b offset, s)
      | .set, target :: source :: _ => set host s index target source
      | .push, target :: property :: source :: _ => push host s index target property source
      | .result, marker :: _ => (.ok (.halt (Value.ofInput marker)), s)
      | op, operands => (.error (.missingOperand index op op.arity operands.length), s) := by
  have handled {op : Opcode} {operands : List String} (enough : op.arity ≤ operands.length) :
      perform host relation s index op operands = (handlers host relation).get op.index s index operands :=
    if_neg (Nat.not_lt.2 enough)
  cases op with
  | jump =>
    match operands with
    | [] | [_] | [_, _] => rfl
    | _ :: _ :: _ :: _ => exact handled (Nat.le_add_left 3 _)
  | set =>
    match operands with
    | [] | [_] => rfl
    | _ :: _ :: _ => exact handled (Nat.le_add_left 2 _)
  | push =>
    match operands with
    | [] | [_] | [_, _] => rfl
    | _ :: _ :: _ :: _ => exact handled (Nat.le_add_left 3 _)
  | result =>
    match operands with
    | [] => rfl
    | _ :: _ => exact handled (Nat.le_add_left 1 _)

theorem perform_eq_settle {op : Opcode} {operands : List String} :
    perform host relation s index op operands =
      settle host s index (demandOf host relation s index op operands) := by
  rw [perform_eq]
  split
  · rfl
  · exact set_eq_settle
  · exact push_eq_settle
  · rfl
  · rename_i notJump notSet notPush notResult
    unfold demandOf
    split
    · exact (notJump _ _ _ _ rfl rfl).elim
    · exact (notSet _ _ _ rfl rfl).elim
    · exact (notPush _ _ _ _ rfl rfl).elim
    · exact (notResult _ _ rfl rfl).elim
    · rfl

/-- **Executing a row is settling its demand.** -/
theorem execute_eq_settle {row : Row} :
    execute host relation context s index row =
      settle host s index (demand host relation context s index row) := by
  unfold execute demand
  cases row.opcode? with
  | none => rfl
  | some op =>
    by_cases permitted : context.permits op = true
    · simp only [permitted, if_true]
      exact perform_eq_settle
    · simp only [permitted]
      rfl

/-- A row that asks its host for something has an opcode that its context permits. -/
theorem demandOf_of_demand {row : Row} {d : Demand}
    (h : demand host relation context s index row = d) (asks : ∀ flow, d ≠ .answer flow) :
    ∃ op, row.opcode? = some op ∧ context.permits op = true ∧
      demandOf host relation s index op row.operands = d := by
  unfold demand at h
  split at h
  · exact (asks _ h.symm).elim
  · rename_i op isOp
    split at h
    · rename_i permitted
      exact ⟨op, isOp, permitted, h⟩
    · exact (asks _ h.symm).elim

/-- A row demands a write only if it is an `s` row, of its first operand and the value its second
one resolves to. -/
theorem of_demand_write {row : Row} {target : String} {v : Value}
    (h : demand host relation context s index row = .write target v) :
    row.opcode? = some .set ∧ context.permits .set = true ∧
      ∃ source rest, row.operands = target :: source :: rest ∧
        resolve host s index source = .ok v := by
  obtain ⟨op, isOp, permitted, demands⟩ := demandOf_of_demand h fun flow => by simp
  unfold demandOf at demands
  split at demands
  · cases demands
  · rename_i t source rest operands
    unfold demandWrite at demands
    split at demands
    · rename_i w resolved
      cases demands
      exact ⟨isOp, permitted, source, rest, operands, resolved⟩
    · cases demands
  · unfold demandPush at demands
    split at demands <;> cases demands
  · cases demands
  · cases demands

/-- A row demands a push only if it is an `sp` row, of its first two operands and the value its
third one resolves to. -/
theorem of_demand_push {row : Row} {target property : String} {v : Value}
    (h : demand host relation context s index row = .push target property v) :
    row.opcode? = some .push ∧ context.permits .push = true ∧
      ∃ source rest, row.operands = target :: property :: source :: rest ∧
        resolve host s index source = .ok v := by
  obtain ⟨op, isOp, permitted, demands⟩ := demandOf_of_demand h fun flow => by simp
  unfold demandOf at demands
  split at demands
  · cases demands
  · unfold demandWrite at demands
    split at demands <;> cases demands
  · rename_i t p source rest operands
    unfold demandPush at demands
    split at demands
    · rename_i w resolved
      cases demands
      exact ⟨isOp, permitted, source, rest, operands, resolved⟩
    · cases demands
  · cases demands
  · cases demands

/-! ## Where control goes -/

/-- A jump whose operands can be read and resolved goes somewhere. -/
theorem of_jump_ok {a b offset : String} {flow : Flow}
    (jumps : jump host relation s index a b offset = .ok flow) :
    ∃ x y n, resolve host s index a = .ok x ∧ resolve host s index b = .ok y ∧
      offset? offset = some n ∧
      flow = if relation.holds x.toNumber y.toNumber then .jump n else .next := by
  unfold jump at jumps
  cases first : resolve host s index a with
  | error e =>
    rw [first] at jumps
    cases jumps
  | ok x =>
    cases second : resolve host s index b with
    | error e =>
      rw [first, second] at jumps
      cases jumps
    | ok y =>
      rw [first, second] at jumps
      cases read : offset? offset with
      | none =>
        simp only [read] at jumps
        cases jumps
      | some n =>
        simp only [read] at jumps
        exact ⟨x, y, n, rfl, rfl, rfl, (Except.ok.inj jumps).symm⟩

/-- A row that asks its host for nothing and does not fail is a `jrgt` row, which leads by its offset or to
the next row, or a `setres` row, which halts where the context permits it. -/
theorem of_demand_ok {row : Row} {flow : Flow}
    (demands : demand host relation context s index row = .answer (.ok flow)) :
    (row.opcode? = some .jump ∧ ∃ a b offset rest n, row.operands = a :: b :: offset :: rest ∧
        offset? offset = some n ∧ (flow = .jump n ∨ flow = .next)) ∨
      (row.opcode? = some .result ∧ context.permits .result = true ∧
        ∃ marker rest, row.operands = marker :: rest ∧ flow = .halt (Value.ofInput marker)) := by
  unfold demand at demands
  split at demands
  · cases demands
  · rename_i op opcode
    by_cases permitted : context.permits op = true
    · rw [if_pos permitted] at demands
      unfold demandOf at demands
      split at demands
      · rename_i a b offset rest operands
        obtain ⟨x, y, n, -, -, read, goes⟩ := of_jump_ok (Demand.answer.inj demands)
        left
        refine ⟨opcode, a, b, offset, rest, n, operands, read, ?_⟩
        rw [goes]
        split
        · exact .inl rfl
        · exact .inr rfl
      · unfold demandWrite at demands
        split at demands <;> cases demands
      · unfold demandPush at demands
        split at demands <;> cases demands
      · rename_i marker rest operands
        cases demands
        exact .inr ⟨opcode, permitted, marker, rest, operands, rfl⟩
      · cases demands
    · rw [if_neg permitted] at demands
      cases demands

/-- Behind a row that asks its host for something control goes to the next row. -/
theorem of_execute_ok {row : Row} {flow : Flow} {s' : σ}
    (executed : execute host relation context s index row = (.ok flow, s')) :
    flow = .next ∨ demand host relation context s index row = .answer (.ok flow) := by
  rw [execute_eq_settle] at executed
  cases demands : demand host relation context s index row with
  | answer answer =>
    rw [demands] at executed
    cases executed
    exact .inr rfl
  | write target value =>
    rw [demands] at executed
    have answered : afterWrite index target (host.write s target value).1 = .ok flow :=
      congrArg Prod.fst executed
    unfold afterWrite at answered
    split at answered <;> cases answered <;> exact .inl rfl
  | push target property value =>
    rw [demands] at executed
    have answered : afterPush index (host.push s target property value).1 = .ok flow :=
      congrArg Prod.fst executed
    unfold afterPush at answered
    split at answered <;> cases answered <;> exact .inl rfl

/-- Control jumps only from a `jrgt` row, by its offset. -/
theorem of_execute_jump {row : Row} {n : Int} {s' : σ}
    (executed : execute host relation context s index row = (.ok (.jump n), s')) :
    row.opcode? = some .jump ∧ ∃ token ∈ row.operands[2]?, n ∈ offset? token := by
  obtain next | demands := of_execute_ok executed
  · cases next
  · obtain ⟨opcode, a, b, offset, rest, m, operands, read, goes⟩ | ⟨-, -, marker, rest, -, halts⟩ :=
      of_demand_ok demands
    · obtain jumps | next := goes
      · cases jumps
        refine ⟨opcode, offset, ?_, read⟩
        rw [operands]
        rfl
      · cases next
    · cases halts

/-! ## Rows that can be resolved -/

theorem resolve_of_read {operand : String} {v : Value} (reads : host.read s operand = some v) :
    resolve host s index operand = .ok v := by
  rw [resolve, reads]

theorem resolve_of_literal {operand : String} {n : Number} (unknown : host.read s operand = none)
    (literal : literal? operand = some n) : resolve host s index operand = .ok (.number n) := by
  rw [resolve, unknown, literal]

theorem demand_set {target source : String} {v : Value} (reads : host.read s source = some v) :
    demand host relation .propagation s index ⟨"s", [target, source]⟩ = .write target v := by
  have opcode : Row.opcode? ⟨"s", [target, source]⟩ = some .set := rfl
  simp only [demand, opcode, Context.permits_eq, if_true, demandOf, demandWrite, resolve_of_read reads]

theorem demand_push {target property source : String} {v : Value} (reads : host.read s source = some v) :
    demand host relation .propagation s index ⟨"sp", [target, property, source]⟩ =
      .push target property v := by
  have opcode : Row.opcode? ⟨"sp", [target, property, source]⟩ = some .push := rfl
  simp only [demand, opcode, Context.permits_eq, if_true, demandOf, demandPush, resolve_of_read reads]

theorem demand_of_jump {row : Row} {a b offset : String} {rest : List String} {v w : Value} {n : Int}
    (opcode : row.opcode? = some .jump) (operands : row.operands = a :: b :: offset :: rest)
    (first : resolve host s index a = .ok v) (second : resolve host s index b = .ok w)
    (integer : offset? offset = some n) :
    demand host relation context s index row =
      .answer (.ok (if relation.holds v.toNumber w.toNumber then .jump n else .next)) := by
  have permitted : context.permits .jump = true := by cases context <;> rfl
  simp only [demand, opcode, permitted, if_true, operands, demandOf, jump, first, second, integer]
  rfl

theorem demand_jump {a b offset : String} {v w : Value} {n : Int} (reads : host.read s a = some v)
    (reads' : host.read s b = some w) (integer : offset? offset = some n) :
    demand host relation context s index ⟨"jrgt", [a, b, offset]⟩ =
      .answer (.ok (if relation.holds v.toNumber w.toNumber then .jump n else .next)) :=
  demand_of_jump rfl rfl (resolve_of_read reads) (resolve_of_read reads') integer

/-- A jump over one row, if the first value is at least the second. -/
theorem demand_skip {a b : String} {v w : Value} (reads : host.read s a = some v)
    (reads' : host.read s b = some w) :
    demand host .greaterOrEqual context s index ⟨"jrgt", [a, b, "2"]⟩ =
      .answer (.ok (if v.toNumber.atLeast w.toNumber then .jump 2 else .next)) :=
  demand_jump reads reads' (by decide +kernel)

theorem demand_result {marker : String} :
    demand host relation .validation s index ⟨"setres", [marker]⟩ =
      .answer (.ok (.halt (Value.ofInput marker))) := by
  have opcode : Row.opcode? ⟨"setres", [marker]⟩ = some .result := rfl
  simp only [demand, opcode, Context.permits_eq, if_true, demandOf]

end Machine

end Formulary
