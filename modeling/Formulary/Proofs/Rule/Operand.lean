import Formulary.Proofs.Rule.Demand

/-!
# The operands a row reads

A row looks at its host through the values of some of its operands, which `Row.valueOperands` lists.
Hosts that agree on these make the row demand the same (`Machine.demand_congr`), and all
of them are among the names the program refers to (`Program.mem_referencedNames`).
-/

namespace Formulary

namespace Opcode

/-- The positions of the operands whose values the opcode reads. -/
def valueOperands : Opcode → List Nat
  | .jump => [0, 1]
  | .set => [1]
  | .push => [2]
  | .result => []

theorem valueOperands_subset {op : Opcode} : op.valueOperands ⊆ op.fieldOperands := by
  cases op <;> simp [valueOperands, fieldOperands]

end Opcode

namespace Row

variable {r : Row}

/-- The operands whose values the row reads. -/
def valueOperands (r : Row) : List String :=
  match r.opcode? with
  | some op => op.valueOperands.filterMap fun i => r.operands[i]?
  | none => []

theorem mem_valueOperands {op : Opcode} (ofOpcode : r.opcode? = some op) {i : Nat}
    (reads : i ∈ op.valueOperands) {operand : String} (found : r.operands[i]? = some operand) :
    operand ∈ r.valueOperands := by
  simp only [valueOperands, ofOpcode]
  exact List.mem_filterMap.2 ⟨i, reads, found⟩

theorem valueOperands_of_jump {a b : String} {rest : List String} (ofOpcode : r.opcode? = some .jump)
    (operands : r.operands = a :: b :: rest) : r.valueOperands = [a, b] := by
  simp [valueOperands, ofOpcode, operands, Opcode.valueOperands]

theorem valueOperands_of_set {target source : String} {rest : List String}
    (ofOpcode : r.opcode? = some .set) (operands : r.operands = target :: source :: rest) :
    r.valueOperands = [source] := by
  simp [valueOperands, ofOpcode, operands, Opcode.valueOperands]

theorem valueOperands_of_push {target property source : String} {rest : List String}
    (ofOpcode : r.opcode? = some .push)
    (operands : r.operands = target :: property :: source :: rest) : r.valueOperands = [source] := by
  simp [valueOperands, ofOpcode, operands, Opcode.valueOperands]

/-- The operands a row reads are among those that may name fields. -/
theorem valueOperands_subset : r.valueOperands ⊆ r.fieldOperands := by
  intro operand mem
  cases ofOpcode : r.opcode? with
  | none =>
    simp only [valueOperands, ofOpcode] at mem
    cases mem
  | some op =>
    simp only [valueOperands, ofOpcode] at mem
    simp only [fieldOperands, ofOpcode]
    obtain ⟨i, reads, found⟩ := List.mem_filterMap.1 mem
    exact List.mem_filterMap.2 ⟨i, Opcode.valueOperands_subset reads, found⟩

end Row

namespace Program

theorem mem_addName {names : List String} {name x : String} :
    x ∈ addName names name ↔ x ∈ names ∨ x = name := by
  unfold addName
  split
  · rename_i there
    constructor
    · exact .inl
    · rintro (old | rfl)
      · exact old
      · simpa using there
  · simp

theorem mem_foldl_addName {more names : List String} {x : String} :
    x ∈ more.foldl addName names ↔ x ∈ names ∨ x ∈ more := by
  induction more generalizing names with
  | nil => simp
  | cons name more ih => rw [List.foldl_cons, ih, mem_addName, List.mem_cons, or_assoc]

/-- A program refers to the operands of its rows that may name fields. -/
theorem mem_referencedNames {p : Program} {name : String} :
    name ∈ p.referencedNames ↔ ∃ row ∈ p.rows, name ∈ row.fieldOperands := by
  rw [referencedNames, mem_foldl_addName, List.mem_flatMap]
  simp

/-- The operands a program reads are among the names it refers to. -/
theorem mem_referencedNames_of_valueOperands {p : Program} {row : Row} {operand : String}
    (has : row ∈ p.rows) (reads : operand ∈ row.valueOperands) : operand ∈ p.referencedNames :=
  mem_referencedNames.2 ⟨row, has, Row.valueOperands_subset reads⟩

end Program

namespace Machine

variable {σ τ : Type} {host : Host σ} {other : Host τ} {s : σ} {t : τ} {index : Nat}
  {relation : Relation} {context : Context} {row : Row}

theorem resolve_congr {operand : String} (reads : host.read s operand = other.read t operand) :
    resolve host s index operand = resolve other t index operand := by
  simp only [resolve, reads]

/-- A demand depends on what the operands read of the host, and on nothing else. -/
theorem demand_congr
    (reads : ∀ operand ∈ row.valueOperands, host.read s operand = other.read t operand) :
    demand host relation context s index row = demand other relation context t index row := by
  unfold demand
  split
  · rfl
  · rename_i op ofOpcode
    have resolves : ∀ i ∈ op.valueOperands, ∀ operand, row.operands[i]? = some operand →
        resolve host s index operand = resolve other t index operand :=
      fun i place operand found =>
        resolve_congr (reads operand (Row.mem_valueOperands ofOpcode place found))
    by_cases permitted : context.permits op = true
    · rw [if_pos permitted, if_pos permitted]
      generalize row.operands = operands at resolves
      unfold demandOf
      split
      · rename_i a b offset rest
        have first := resolves 0 (by simp [Opcode.valueOperands]) a rfl
        have second := resolves 1 (by simp [Opcode.valueOperands]) b rfl
        simp only [jump, first, second]
      · rename_i target source rest
        have value := resolves 1 (by simp [Opcode.valueOperands]) source rfl
        simp only [demandWrite, value]
      · rename_i target property source rest
        have value := resolves 2 (by simp [Opcode.valueOperands]) source rfl
        simp only [demandPush, value]
      · rfl
      · rfl
    · rw [if_neg permitted, if_neg permitted]

end Machine

end Formulary
