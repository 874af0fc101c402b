import Formulary.Proofs.Number
import Formulary.Proofs.Rule.Demand
import Formulary.Proofs.Rule.Loop
import Formulary.Rule.Bench

/-!
# Where a jump leads

An offset is an integer of any size, and the arithmetic of jumps is that of words of 64 bits: the offset is
clamped to a word, the index of the row is converted to one, their sum is tested for overflow and converted
back. `wordTarget` says it so, step by step, and comes to what `jumpTarget` does (`wordTarget_eq`). In a
program whose indices are words none of that shows: a jump leads to the row that unbounded integers give,
or ends the run if there is no such row (`jumpTarget_of_inside`, `jumpTarget_of_outside`).
-/

namespace Formulary

namespace Word

/-- The word an index is, if it is not too great for one. -/
def ofIndex? (n : Nat) : Option Int64 :=
  if (n : Int) ≤ Int64.maxValue.toInt then some (Int64.ofNat n) else none

/-- The sum of two words, unless it overflows. -/
def add? (a b : Int64) : Option Int64 :=
  if a.toBitVec.saddOverflow b.toBitVec then none else some (a + b)

/-- The index a word is, unless it is negative. -/
def toIndex? (a : Int64) : Option Nat :=
  if a < 0 then none else some a.toNatClampNeg

theorem minValue_eq : Int64.minValue.toInt = -9223372036854775808 := by
  decide

theorem maxValue_eq : Int64.maxValue.toInt = 9223372036854775807 := by
  decide

theorem toInt_bounds (a : Int64) : -9223372036854775808 ≤ a.toInt ∧ a.toInt ≤ 9223372036854775807 := by
  have least := a.minValue_le_toInt
  have greatest := a.toInt_le
  rw [minValue_eq] at least
  rw [maxValue_eq] at greatest
  exact ⟨least, greatest⟩

/-- An index is converted exactly or not at all. -/
theorem ofIndex?_eq_some_iff {n : Nat} {a : Int64} : ofIndex? n = some a ↔ a.toInt = n := by
  have bounds := toInt_bounds a
  unfold ofIndex?
  rw [maxValue_eq]
  by_cases short : (n : Int) ≤ 9223372036854775807
  · rw [if_pos short, Option.some.injEq, ← Int64.toInt_inj,
      Int64.toInt_ofNat_of_lt (by omega)]
    exact eq_comm
  · rw [if_neg short]
    constructor
    · intro absent
      cases absent
    · intro same
      omega

/-- A sum is exact or none. -/
theorem add?_eq_some_iff {a b c : Int64} : add? a b = some c ↔ c.toInt = a.toInt + b.toInt := by
  have bounds := toInt_bounds c
  unfold add?
  by_cases overflows : a.toBitVec.saddOverflow b.toBitVec = true
  · rw [if_pos overflows]
    constructor
    · intro absent
      cases absent
    · intro same
      simp only [BitVec.saddOverflow, Int64.toInt_toBitVec, Bool.or_eq_true, decide_eq_true_eq] at overflows
      omega
  · rw [if_neg overflows, Option.some.injEq, ← Int64.toInt_inj]
    have sum := BitVec.toInt_add_of_not_saddOverflow overflows
    rw [← Int64.toBitVec_add] at sum
    simp only [Int64.toInt_toBitVec] at sum
    rw [sum]
    exact eq_comm

/-- A word is converted back exactly or not at all. -/
theorem toIndex?_eq_some_iff {a : Int64} {n : Nat} : toIndex? a = some n ↔ a.toInt = n := by
  unfold toIndex?
  by_cases negative : a < 0
  · rw [if_pos negative]
    rw [Int64.lt_iff_toInt_lt, Int64.toInt_zero] at negative
    constructor
    · intro absent
      cases absent
    · intro same
      omega
  · rw [if_neg negative, Option.some.injEq, Int64.toNatClampNeg]
    rw [Int64.lt_iff_toInt_lt, Int64.toInt_zero] at negative
    omega

/-- Added and converted back, two words are their sum if that is an index and no more than a word. -/
theorem add?_bind_eq_some_iff {a b : Int64} {n : Nat} :
    (add? a b).bind toIndex? = some n ↔ a.toInt + b.toInt = n ∧ (n : Int) ≤ Int64.maxValue.toInt := by
  rw [Option.bind_eq_some_iff, maxValue_eq]
  constructor
  · rintro ⟨c, added, index⟩
    have bounds := toInt_bounds c
    rw [add?_eq_some_iff] at added
    rw [toIndex?_eq_some_iff] at index
    omega
  · rintro ⟨sum, short⟩
    have exactly : (Int64.ofInt n).toInt = n := Int64.toInt_ofInt_of_le (by omega) (by omega)
    exact ⟨Int64.ofInt n, add?_eq_some_iff.2 (exactly.trans sum.symm), toIndex?_eq_some_iff.2 exactly⟩

theorem toInt_ofIntClamp {n : Int} : (Int64.ofIntClamp n).toInt = Machine.clampOffset n := by
  unfold Machine.clampOffset
  rw [minValue_eq, maxValue_eq]
  by_cases above : -9223372036854775808 ≤ n
  · by_cases below : n ≤ 9223372036854775807
    · rw [Int64.toInt_ofIntClamp (by rwa [minValue_eq]) (by rwa [maxValue_eq])]
      omega
    · have greatest : Int64.ofIntClamp n = Int64.maxValue := by
        rw [Int64.ofIntClamp, dif_pos (by rwa [minValue_eq]), dif_neg (by rwa [maxValue_eq])]
      rw [greatest, maxValue_eq]
      omega
  · have least : Int64.ofIntClamp n = Int64.minValue := by
      rw [Int64.ofIntClamp, dif_neg (by rwa [minValue_eq])]
    rw [least, minValue_eq]
    omega

end Word

namespace Machine

open Word

/-- The row a jump leads to, found in words of 64 bits. -/
def wordTarget (length row : Nat) (offset : Int) : Nat :=
  let target? := (ofIndex? row).bind fun start =>
    (add? start (Int64.ofIntClamp offset)).bind toIndex?
  (target?.filter (· < length)).getD length

variable {length row : Nat} {offset : Int}

/-- **In words of 64 bits the row is found that the integers give.** -/
theorem wordTarget_eq (short : (row : Int) ≤ Int64.maxValue.toInt) :
    wordTarget length row offset = jumpTarget length row offset := by
  obtain ⟨start, converted⟩ : ∃ start, ofIndex? row = some start := ⟨_, if_pos short⟩
  have exactly : start.toInt = row := ofIndex?_eq_some_iff.1 converted
  unfold wordTarget jumpTarget
  simp only [converted, Option.bind_some]
  by_cases there : 0 ≤ (row : Int) + clampOffset offset ∧ (row : Int) + clampOffset offset < length ∧
      (row : Int) + clampOffset offset ≤ Int64.maxValue.toInt
  · have found : (add? start (Int64.ofIntClamp offset)).bind toIndex? =
        some ((row : Int) + clampOffset offset).toNat := by
      rw [add?_bind_eq_some_iff, toInt_ofIntClamp, exactly]
      omega
    rw [if_pos there, found, Option.filter_some, if_pos (by simp only [decide_eq_true_eq]; omega)]
    rfl
  · rw [if_neg there]
    cases found : (add? start (Int64.ofIntClamp offset)).bind toIndex? with
    | none => rfl
    | some target =>
      rw [add?_bind_eq_some_iff, toInt_ofIntClamp, exactly] at found
      rw [Option.filter_some, if_neg (by simp only [decide_eq_true_eq]; omega)]
      rfl

/-! ## Rows and ends -/

/-- A jump leads to a row of the program or to its end. -/
theorem jumpTarget_le : jumpTarget length row offset ≤ length := by
  simp only [jumpTarget]
  split
  · omega
  · exact Nat.le_refl _

/-- A jump by an offset of at least one leads forward. -/
theorem lt_jumpTarget (inside : row < length) (forward : 1 ≤ offset) :
    row < jumpTarget length row offset := by
  have clamped : 1 ≤ clampOffset offset := by
    rw [clampOffset, minValue_eq, maxValue_eq]
    omega
  simp only [jumpTarget]
  split
  · omega
  · exact inside

section

variable (short : (length : Int) ≤ Int64.maxValue.toInt)
include short

/-- A jump leads to the row its offset away, if the program has one there. -/
theorem jumpTarget_of_inside {target : Nat} (away : (target : Int) = row + offset)
    (inside : target < length) (within : row < length) : jumpTarget length row offset = target := by
  rw [maxValue_eq] at short
  have clamped : clampOffset offset = offset := by
    rw [clampOffset, minValue_eq, maxValue_eq]
    omega
  simp only [jumpTarget, clamped, maxValue_eq]
  rw [if_pos (by omega)]
  omega

/-- And else to the end: what lies outside the program still does once the offset is clamped. -/
theorem jumpTarget_of_outside (outside : (row : Int) + offset < 0 ∨ (length : Int) ≤ row + offset)
    (within : row < length) : jumpTarget length row offset = length := by
  rw [maxValue_eq] at short
  simp only [jumpTarget]
  rw [if_neg]
  rw [clampOffset, minValue_eq, maxValue_eq]
  omega

end

/-! ## Jump rows -/

/-- The offset of a token that reads as a finite number with an integral value is that value. -/
theorem offset?_of_integral {token : String} {n : Number} {k : Int}
    (read : Number.ofText? token.toList = some n) (finite : n.isFinite = true)
    (integral : n.position = some (k * Number.unit)) : offset? token = some k := by
  rw [offset?, read]
  exact Number.toInt?_eq_some_iff.2 ⟨finite, integral⟩

/-- **A jump leads where unbounded integers say.** Take a `jrgt` row of a program of less than 2^63 rows,
with operands that can be resolved and an offset whose value is an integer `k`, whatever its size. If the
relation holds, the run goes on at the row `k` away if the program has one there, and is over, at the end of
the program, if it has none; the arithmetic of words comes to the same row. If it does not hold, the run
goes on at the next row. Nothing happens to the host. -/
theorem loop_of_jump {σ : Type} (host : Host σ) (options : RunOptions) (p : Program) (r : RunState) (s : σ)
    {row : Row} {a b offset : String} {rest : List String} {x y : Value} {n : Number} {k : Int}
    (short : (p.length : Int) ≤ Int64.maxValue.toInt) (due : p.rows[r.row]? = some row)
    (opcode : row.opcode? = some .jump) (operands : row.operands = a :: b :: offset :: rest)
    (first : resolve host s r.row a = .ok x) (second : resolve host s r.row b = .ok y)
    (read : Number.ofText? offset.toList = some n) (finite : n.isFinite = true)
    (integral : n.position = some (k * Number.unit)) (budget : Nat) :
    (options.relation.holds x.toNumber y.toNumber = true →
      (∀ target : Nat, (target : Int) = r.row + k → target < p.length →
        wordTarget p.length r.row k = target ∧
        loop host options p (budget + 1) r s =
          loop host options p budget { r with row := target, steps := r.steps + 1 } s) ∧
      ((r.row : Int) + k < 0 ∨ (p.length : Int) ≤ r.row + k →
        wordTarget p.length r.row k = p.length ∧
        loop host options p (budget + 1) r s =
          (.ok { r with row := p.length, steps := r.steps + 1 }, s))) ∧
    (options.relation.holds x.toNumber y.toNumber = false →
      loop host options p (budget + 1) r s =
        loop host options p budget { r with row := r.row + 1, steps := r.steps + 1 } s) := by
  have within : r.row < p.length := (List.getElem?_eq_some_iff.1 due).1
  have word : (r.row : Int) ≤ Int64.maxValue.toInt := by omega
  have executed : execute host options.relation r.context s r.row row =
      (.ok (if options.relation.holds x.toNumber y.toNumber then .jump k else .next), s) := by
    have integer := offset?_of_integral read finite integral
    rw [execute_eq_settle, demand_of_jump opcode operands first second integer]
    rfl
  constructor
  · intro holds
    rw [holds, if_pos rfl] at executed
    rw [loop_of_next due executed, wordTarget_eq word]
    constructor
    · intro target away inside
      have leads := jumpTarget_of_inside short away inside within
      rw [advance, leads]
      exact ⟨rfl, rfl⟩
    · intro outside
      have leads := jumpTarget_of_outside short outside within
      rw [advance, leads]
      exact ⟨rfl, loop_of_left (List.getElem?_eq_none (Nat.le_refl _))⟩
  · intro fails
    rw [fails, if_neg Bool.false_ne_true] at executed
    rw [loop_of_next due executed]
    rfl

/-- Jumps over a row by an offset with a point, and from there by one that is no word, far before the first
row. -/
def leap : Program :=
  ⟨[⟨"jrgt", ["1", "0", "2.0"]⟩, ⟨"setres", ["missed"]⟩, ⟨"jrgt", ["age", "age", "-1e19"]⟩]⟩

theorem leap_leads :
    let bench : Bench := { fields := .ofList [("age", .text "7")] }
    (Number.ofText? "2.0".toList = some (.ofInt 2) ∧
      wordTarget 3 0 2 = 2 ∧
      loop Bench.host {} leap 10000 { context := .validation } bench =
        loop Bench.host {} leap 9999 { context := .validation, row := 2, steps := 1 } bench) ∧
    (Number.ofText? "-1e19".toList = some (.ofInt (-10000000000000000000)) ∧
      wordTarget 3 2 (-10000000000000000000) = 3 ∧
      loop Bench.host {} leap 9999 { context := .validation, row := 2, steps := 1 } bench =
        (.ok { context := .validation, row := 3, steps := 2 }, bench)) := by
  intro bench
  have short : (leap.length : Int) ≤ Int64.maxValue.toInt := by decide
  have one : resolve Bench.host bench 0 "1" = .ok (.number (.ofInt 1)) :=
    resolve_of_literal (by decide) (by decide +kernel)
  have zero : resolve Bench.host bench 0 "0" = .ok (.number (.ofInt 0)) :=
    resolve_of_literal (by decide) (by decide +kernel)
  have age : resolve Bench.host bench 2 "age" = .ok (.text "7") := resolve_of_read (by decide)
  have read : Number.ofText? "2.0".toList = some (.ofInt 2) := by decide +kernel
  have read' : Number.ofText? "-1e19".toList = some (.ofInt (-10000000000000000000)) := by decide +kernel
  have ahead := loop_of_jump Bench.host {} leap { context := .validation } bench short rfl rfl rfl one zero
    read (k := 2) (by decide +kernel) (by decide +kernel) 9999
  have away := loop_of_jump Bench.host {} leap { context := .validation, row := 2, steps := 1 } bench short
    rfl rfl rfl age age read' (k := -10000000000000000000) (by decide +kernel) (by decide +kernel) 9998
  exact ⟨⟨read, (ahead.1 (by decide +kernel)).1 2 rfl (by decide)⟩,
    ⟨read', (away.1 (by decide +kernel)).2 (.inl (by decide))⟩⟩

end Machine

end Formulary
