import Mathlib.Logic.Function.Basic
import Formulary.Proofs.Number
import Formulary.Proofs.Propagation.Correction
import Formulary.Proofs.Setup
import Formulary.Proofs.Validity

/-!
# An age between two bounds

A form has an age, a lower bound and an upper one. The rule of the age clamps it whenever a bound changes
(`ageRule_responds`), and the rule of a bound moves it along when the other one passes it
(`Bound.rule_responds`). These set off one another, but a bound that has been moved is in order with the
other, so the nesting ends there (`writes_bound`). What is left is arithmetic: a value clamped to bounds in
order is between them (`inRange_clamp`).
-/

namespace Formulary

namespace AgeRange

/-- A bound of the age. -/
inductive Bound where
  | lower
  | upper
deriving DecidableEq, Repr

namespace Bound

/-- The field of the bound. -/
def name : Bound → String
  | .lower => "minAge"
  | .upper => "maxAge"

/-- The property by which components are told of the bound. -/
def key : Bound → String
  | .lower => "min"
  | .upper => "max"

/-- The bound on the other side. -/
def other : Bound → Bound
  | .lower => .upper
  | .upper => .lower

@[simp] theorem other_other {b : Bound} : b.other.other = b := by
  cases b <;> rfl

@[simp] theorem other_ne {b : Bound} : b.other ≠ b := by
  cases b <;> decide

@[simp] theorem name_inj {b b' : Bound} : b.name = b'.name ↔ b = b' := by
  cases b <;> cases b' <;> decide

@[simp] theorem name_ne_age {b : Bound} : b.name ≠ "age" := by
  cases b <;> decide

end Bound

/-! ## Clamping -/

variable {bounds : Bound → Value} {age v : Value} {b : Bound}

/-- The bounds are in order. -/
def Ordered (bounds : Bound → Value) : Prop :=
  (bounds .upper).toNumber.atLeast (bounds .lower).toNumber = true

/-- The age is between the bounds. -/
structure InRange (bounds : Bound → Value) (age : Value) : Prop where
  lower : age.toNumber.atLeast (bounds .lower).toNumber = true
  upper : (bounds .upper).toNumber.atLeast age.toNumber = true

/-- The age, or the lower bound unless the age is at least that. -/
def raise (bounds : Bound → Value) (age : Value) : Value :=
  if age.toNumber.atLeast (bounds .lower).toNumber then age else bounds .lower

/-- The age raised to the lower bound, or the upper bound unless that is at least the age raised. -/
def clamp (bounds : Bound → Value) (age : Value) : Value :=
  if (bounds .upper).toNumber.atLeast (raise bounds age).toNumber then raise bounds age else bounds .upper

theorem raise_of_lower (above : age.toNumber.atLeast (bounds .lower).toNumber = true) :
    raise bounds age = age :=
  if_pos above

theorem InRange.ordered (h : InRange bounds age) : Ordered bounds :=
  Number.atLeast_trans h.upper h.lower

/-- **What is clamped to bounds in order is between them**, be it a number or not. -/
theorem inRange_clamp (ordered : Ordered bounds) : InRange bounds (clamp bounds age) := by
  obtain ⟨upperReal, lowerReal⟩ := Number.ne_nan_of_atLeast ordered
  have atUpper : (bounds .upper).toNumber.atLeast (bounds .upper).toNumber = true :=
    Number.atLeast_refl upperReal
  have raised : (raise bounds age).toNumber.atLeast (bounds .lower).toNumber = true := by
    unfold raise
    split
    · assumption
    · exact Number.atLeast_refl lowerReal
  unfold clamp
  split
  · rename_i below
    exact ⟨raised, below⟩
  · exact ⟨ordered, atUpper⟩

/-- One value for both bounds is in order, if it is a number. -/
theorem ordered_of_eq (real : v.toNumber ≠ .nan) (same : ∀ b, bounds b = v) : Ordered bounds := by
  rw [Ordered, same .upper, same .lower]
  exact Number.atLeast_refl real

/-! ## The rules -/

/-- The program that clamps the age. -/
def clamping : Program :=
  ⟨Row.correction "age" "minAge" "age" "min" "minAge" ++ Row.correction "maxAge" "age" "age" "max" "maxAge"⟩

/-- The program that moves a bound along with the other one. -/
def moving (b : Bound) : Program :=
  ⟨Row.correction "maxAge" "minAge" b.name b.other.key b.other.name⟩

/-- The rule of the age. -/
def ageRule : Subscription :=
  ⟨"age", ["minAge", "maxAge"], [clamping]⟩

/-- The rule of a bound. -/
def Bound.rule (b : Bound) : Subscription :=
  ⟨b.name, [b.other.name], [moving b]⟩

/-- The rules of the form. -/
def rules : List Subscription :=
  [ageRule, Bound.lower.rule, Bound.upper.rule]

/-- No rule depends on the age. -/
theorem dependents_age : Subscription.dependents rules "age" = [] := by
  decide

/-- On a bound depend the rule of the age and, after it, that of the other bound. -/
theorem dependents_bound (b : Bound) : Subscription.dependents rules b.name = [ageRule, b.other.rule] := by
  cases b <;> decide

open Propagation

/-! ## Where a change stands -/

/-- Where a change stands: the fields in flight, the writes made by programs so far, the bounds and the age.
No program has failed. -/
structure At (names : List String) (writes : List (String × Value)) (bounds : Bound → Value) (age : Value)
    (c : Change) : Prop where
  age : c.store.get? "age" = some age
  bounds : ∀ b : Bound, c.store.get? b.name = some (bounds b)
  inFlight : c.inFlight.names = names
  propagated : c.journal.propagated = writes
  failures : c.journal.failures = []

variable {options : RunOptions} {names : List String} {writes : List (String × Value)} {c : Change}
  {store : Store}

theorem propagated_enter {name : String} (nested : c.inFlight.names ≠ []) :
    (c.enter store name v).journal.propagated = c.journal.propagated ++ [(name, v)] := by
  have deep : 0 < c.inFlight.names.length := List.length_pos_iff.2 nested
  simp [Journal.propagated, deep]

theorem failures_enter {name : String} : (c.enter store name v).journal.failures = c.journal.failures := by
  simp [Journal.failures]

/-- A bound that is written has the value, and the other one keeps its own. -/
theorem get?_of_set?_bound {s : Store} (holds : ∀ b : Bound, s.get? b.name = some (bounds b))
    (set : s.set? b.name v = some store) (b' : Bound) :
    store.get? b'.name = some (Function.update bounds b v b') := by
  rw [Store.get?_of_set? set, holds b']
  by_cases same : b' = b
  · simp [same]
  · simp [same]

namespace At

theorem push (h : At names writes bounds age c) (target property : String) (value : Value) :
    At names writes bounds age (c.push target property value).2 where
  age := by rw [push_store, h.age]
  bounds b := by rw [push_store, h.bounds b]
  inFlight := by rw [push_inFlight, h.inFlight]
  propagated := by
    rw [← h.propagated, Journal.propagated, push_events]
    split <;> simp [Journal.propagated]
  failures := by
    rw [← h.failures, Journal.failures, push_events]
    split <;> simp [Journal.failures]

theorem leave {name : String} (h : At (name :: names) writes bounds age c) :
    At names writes bounds age (c.leave name) :=
  ⟨h.age, h.bounds, leave_names h.inFlight, h.propagated, h.failures⟩

theorem enter_age (h : At names writes bounds age c) (nested : names ≠ [])
    (set : c.store.set? "age" v = some store) :
    At ("age" :: names) (writes ++ [("age", v)]) bounds v (c.enter store "age" v) where
  age := by rw [enter_store, Store.get?_of_set? set, if_pos rfl]
  bounds b := by rw [enter_store, Store.get?_of_set? set, if_neg Bound.name_ne_age, h.bounds b]
  inFlight := by rw [enter_names, h.inFlight]
  propagated := by rw [propagated_enter (h.inFlight ▸ nested), h.propagated]
  failures := by rw [failures_enter, h.failures]

theorem enter_bound (h : At names writes bounds age c) (nested : names ≠ [])
    (set : c.store.set? b.name v = some store) :
    At (b.name :: names) (writes ++ [(b.name, v)]) (Function.update bounds b v) age
      (c.enter store b.name v) where
  age := by rw [enter_store, Store.get?_of_set? set, if_neg Bound.name_ne_age.symm, h.age]
  bounds := get?_of_set?_bound h.bounds set
  inFlight := by rw [enter_names, h.inFlight]
  propagated := by rw [propagated_enter (h.inFlight ▸ nested), h.propagated]
  failures := by rw [failures_enter, h.failures]

/-- Nothing depends on the age, so a write of it changes nothing else. -/
theorem writes_age (h : At names writes bounds age c) (nested : names ≠ []) (free : "age" ∉ names)
    (v : Value) :
    ∃ c', Writes options rules c "age" v .applied c' ∧ At names (writes ++ [("age", v)]) bounds v c' := by
  obtain ⟨store, set⟩ := Store.exists_set? h.age v
  refine ⟨_, .applied set (h.inFlight ▸ free) ?_, (h.enter_age nested set).leave⟩
  rw [dependents_age]
  exact .nil

/-- A correction of the age by a bound. -/
theorem corrects_age (options : RunOptions) (h : At names writes bounds age c) (nested : names ≠ [])
    (free : "age" ∉ names) (b : Bound) (v w : Value) :
    ∃ writes' c', Corrects options rules "age" b.name v w c c' ∧
      At names writes' bounds (if v.toNumber.atLeast w.toNumber then age else bounds b) c' ∧
      (v.toNumber.atLeast w.toNumber = true → writes' = writes) := by
  cases ordered : v.toNumber.atLeast w.toNumber with
  | true => exact ⟨writes, c, .inOrder ordered, h, fun _ => rfl⟩
  | false =>
    obtain ⟨c', written, after⟩ := h.writes_age nested free (bounds b)
    exact ⟨_, c', .corrected ordered (h.bounds b) written, after, nofun⟩

end At

/-- The form has the bounds and the age. -/
structure Holds (g : Form) (bounds : Bound → Value) (age : Value) : Prop where
  age : g.value? "age" = some age
  bounds : ∀ b : Bound, g.value? b.name = some (bounds b)

section

variable (relation : options.relation = .greaterOrEqual) (enough : 6 ≤ options.maxSteps)

include relation enough

/-- **The rule of the age clamps it**, and writes nothing if it is in range. -/
theorem ageRule_responds (h : At names writes bounds age c) (nested : names ≠ []) (free : "age" ∉ names) :
    ∃ writes' c', Responds options rules "age" 0 ageRule.programs c c' ∧
      At names writes' bounds (clamp bounds age) c' ∧ (InRange bounds age → writes' = writes) := by
  obtain ⟨writes₁, c₁, raises, at₁, quiet₁⟩ :=
    h.corrects_age options nested free .lower age (bounds .lower)
  have raised : At names writes₁ bounds (raise bounds age) _ := at₁.push "age" "min" (bounds .lower)
  obtain ⟨writes₂, c₂, lowers, at₂, quiet₂⟩ :=
    raised.corrects_age options nested free .upper (bounds .upper) (raise bounds age)
  have lowered : At names writes₂ bounds (clamp bounds age) _ := at₂.push "age" "max" (bounds .upper)
  -- the program is one correction behind the other
  obtain ⟨steps, early, first⟩ := Runs.correction (p := clamping) [] _ rfl (Nat.le_refl 0) enough (by decide)
    relation h.age (h.bounds .lower) raises (at₁.bounds .lower)
  obtain ⟨steps', -, second⟩ := Runs.correction (p := clamping) _ [] rfl early enough (by decide) relation
    (raised.bounds .upper) raised.age lowers (at₂.bounds .upper)
  refine ⟨writes₂, _, .finished (first (second (.left rfl))) .nil, lowered, fun inRange => ?_⟩
  have unraised : raise bounds age = age := raise_of_lower inRange.lower
  rw [quiet₂ (by rw [unraised]; exact inRange.upper), quiet₁ inRange.lower]

theorem rule_responds_of_corrects {bounds' : Bound → Value} {age' : Value} {writes' : List (String × Value)}
    {c₁ : Change} (h : At names writes bounds age c)
    (corrects : Corrects options rules b.name b.other.name (bounds .upper) (bounds .lower) c c₁)
    (after : At names writes' bounds' age' c₁) :
    ∃ c', Responds options rules b.name 0 b.rule.programs c c' ∧ At names writes' bounds' age' c' := by
  have size : (moving b).length = 3 := rfl
  have short : ((moving b).length : Int) ≤ Int64.maxValue.toInt := by
    rw [size]
    decide
  obtain ⟨steps, -, run⟩ := Runs.correction (p := moving b) [] [] rfl (Nat.le_refl 0) (by omega) short
    relation (h.bounds .upper) (h.bounds .lower) corrects (after.bounds b.other)
  exact ⟨_, .finished (run (.left rfl)) .nil, after.push _ _ _⟩

/-- **A bound that is written in order with the other one ends the nesting**: the age is clamped, and the
rule of the other bound has nothing to do. -/
theorem writes_bound (h : At names writes bounds age c) (nested : names ≠ []) (free : "age" ∉ names)
    (free' : b.name ∉ names) (ordered : Ordered (Function.update bounds b v)) :
    ∃ writes' c', Writes options rules c b.name v .applied c' ∧
      At names writes' (Function.update bounds b v) (clamp (Function.update bounds b v) age) c' := by
  obtain ⟨store, set⟩ := Store.exists_set? (h.bounds b) v
  have entered := h.enter_bound nested set
  have unmarked : "age" ∉ b.name :: names := by simpa using ⟨Bound.name_ne_age.symm, free⟩
  obtain ⟨writes', c₁, clamps, clamped, -⟩ :=
    ageRule_responds relation enough entered (List.cons_ne_nil _ _) unmarked
  obtain ⟨c₂, skips, skipped⟩ :=
    rule_responds_of_corrects (b := b.other) relation enough clamped (.inOrder ordered) clamped
  refine ⟨writes', _, .applied set (h.inFlight ▸ free') ?_, skipped.leave⟩
  rw [dependents_bound]
  exact .cons clamps (.cons skips .nil)

/-- The rule of a bound moves it to the other one unless they are in order. -/
theorem rule_responds (h : At names writes bounds age c) (nested : names ≠ []) (free : "age" ∉ names)
    (free' : b.name ∉ names) (real : (bounds b.other).toNumber ≠ .nan) :
    ∃ writes' bounds' age' c', Responds options rules b.name 0 b.rule.programs c c' ∧
      At names writes' bounds' age' c' ∧ bounds' b.other = bounds b.other ∧
      (Ordered bounds → writes' = writes ∧ bounds' = bounds ∧ age' = age) ∧
      (¬ Ordered bounds → InRange bounds' age') := by
  by_cases ordered : Ordered bounds
  · obtain ⟨c', skips, skipped⟩ := rule_responds_of_corrects (b := b) relation enough h (.inOrder ordered) h
    exact ⟨writes, bounds, age, c', skips, skipped, rfl, fun _ => ⟨rfl, rfl, rfl⟩,
      fun less => (less ordered).elim⟩
  · have both : ∀ b', Function.update bounds b (bounds b.other) b' = bounds b.other := by
      intro b'
      cases b <;> cases b' <;> rfl
    have moved := ordered_of_eq real both
    obtain ⟨writes', c₁, written, after⟩ := writes_bound relation enough h nested free free' moved
    obtain ⟨c', moves, there⟩ := rule_responds_of_corrects (b := b) relation enough h
      (.corrected (Bool.eq_false_iff.2 ordered) (h.bounds b.other) written) after
    exact ⟨writes', _, _, c', moves, there, both b.other, fun inOrder => (ordered inOrder).elim,
      fun _ => inRange_clamp moved⟩

/-- **A change of a bound leaves the age in range**, and writes nothing else if it is. -/
theorem setValue_bound {g : Form} (options_eq : g.options = options) (ofRules : g.subscriptions = rules)
    (holds : Holds g bounds age) (b : Bound) (real : v.toNumber ≠ .nan) :
    ∃ g' j bounds' age', g.setValue b.name v = .ok (g', j) ∧ Holds g' bounds' age' ∧ bounds' b = v ∧
      InRange bounds' age' ∧ j.failures = [] ∧
      (InRange (Function.update bounds b v) age → j.propagated = []) := by
  obtain ⟨store, set⟩ := Store.exists_set? (holds.bounds b) v
  have entered : At [b.name] [] (Function.update bounds b v) age (g.change.enter store b.name v) := by
    refine ⟨?_, get?_of_set?_bound holds.bounds set, rfl, ?_, ?_⟩
    · rw [enter_store, Store.get?_of_set? set, if_neg Bound.name_ne_age.symm]
      exact holds.age
    · rw [Journal.propagated, Form.change_events]
      rfl
    · rw [Journal.failures, Form.change_events]
      rfl
  have unmarked : "age" ∉ [b.name] := by simpa using Bound.name_ne_age.symm
  have unmarked' : b.other.name ∉ [b.name] := by simp
  have other : (Function.update bounds b v b.other.other).toNumber ≠ .nan := by simpa using real
  obtain ⟨writes₁, c₁, clamps, clamped, quiet⟩ :=
    ageRule_responds relation enough entered (List.cons_ne_nil _ _) unmarked
  obtain ⟨writes₂, bounds', age', c₂, moves, moved, kept, same, corrected⟩ :=
    rule_responds relation enough clamped (List.cons_ne_nil _ _) unmarked unmarked' other
  have course : Writes g.options g.subscriptions g.change b.name v .applied (c₂.leave b.name) := by
    refine .applied set List.not_mem_nil ?_
    rw [options_eq, ofRules, dependents_bound]
    exact .cons clamps (.cons moves .nil)
  have ends := moved.leave
  refine ⟨_, _, bounds', age', Form.setValue_of_writes course, ⟨ends.age, ends.bounds⟩, ?_, ?_, ends.failures,
    ?_⟩
  · simpa using kept
  · by_cases ordered : Ordered (Function.update bounds b v)
    · obtain ⟨-, rfl, rfl⟩ := same ordered
      exact inRange_clamp ordered
    · exact corrected ordered
  · intro inRange
    rw [ends.propagated, (same inRange.ordered).1, quiet inRange]

end

/-! ## Judging the age -/

/-- What the validator reports of an age out of range. -/
def report (bounds : Bound → Value) (age : Value) : ValidationFailure where
  validator := "inRange"
  message := "value age not in a range"
  marker := .text "error"
  fields := .ofList [("age", age), ("minAge", bounds .lower), ("maxAge", bounds .upper)]

section

variable {s : Store} (relation : options.relation = .greaterOrEqual)

include relation

/-- A jump of the validator passes over the row behind if the first value is at least the second. -/
theorem execute_jump {x y : String} {w : Value} (index : Nat) (reads : s.get? x = some v)
    (reads' : s.get? y = some w) :
    Machine.execute FormValidator.host options.relation .validation s index ⟨"jrgt", [x, y, "2"]⟩ =
      (.ok (if v.toNumber.atLeast w.toNumber then .jump 2 else .next), s) := by
  rw [Machine.execute_eq_settle, relation, Machine.demand_skip reads reads']
  rfl

omit relation in
theorem execute_error {index : Nat} :
    Machine.execute FormValidator.host options.relation .validation s index ⟨"setres", ["error"]⟩ =
      (.ok (.halt (.text "error")), s) := by
  have marker : Value.ofInput "error" = .text "error" := by decide +kernel
  rw [Machine.execute_eq_settle, Machine.demand_result, marker]
  rfl

/-- The validator ends without a result if the age is in range, and else with its marker. -/
theorem run_inRange (enough : 4 ≤ options.maxSteps) (ofAge : s.get? "age" = some age)
    (ofBounds : ∀ b : Bound, s.get? b.name = some (bounds b)) :
    (InRange bounds age → ∃ r, FormValidator.inRange.run options s = .ok r ∧ r.result = none) ∧
    (¬ InRange bounds age →
      ∃ r, FormValidator.inRange.run options s = .ok r ∧ r.result = some (.text "error")) := by
  obtain ⟨spare, steps⟩ := Nat.exists_eq_add_of_le' enough
  have lower : s.get? "minAge" = some (bounds .lower) := ofBounds .lower
  have upper : s.get? "maxAge" = some (bounds .upper) := ofBounds .upper
  have first := execute_jump relation 0 ofAge lower
  have second := execute_jump relation 2 upper ofAge
  have overFirst : Machine.jumpTarget 4 0 2 = 2 := by decide
  have overThird : Machine.jumpTarget 4 2 2 = 4 := by decide
  rw [FormValidator.run_eq_loop, Nat.sub_zero, steps]
  by_cases above : age.toNumber.atLeast (bounds .lower).toNumber = true
  · rw [above, if_pos rfl] at first
    by_cases below : (bounds .upper).toNumber.atLeast age.toNumber = true
    · rw [below, if_pos rfl] at second
      refine ⟨fun _ => ⟨⟨.validation, 4, none, 2⟩, ?_, rfl⟩, fun out => (out ⟨above, below⟩).elim⟩
      simp [Machine.loop, FormValidator.inRange, Machine.advance, Program.length, first, second, overFirst,
        overThird]
    · rw [if_neg below] at second
      refine ⟨fun within => (below within.upper).elim,
        fun _ => ⟨⟨.validation, 4, some (.text "error"), 3⟩, ?_, rfl⟩⟩
      simp [Machine.loop, FormValidator.inRange, Machine.advance, Program.length, first, second, overFirst,
        execute_error]
  · rw [if_neg above] at first
    refine ⟨fun within => (above within.lower).elim,
      fun _ => ⟨⟨.validation, 4, some (.text "error"), 2⟩, ?_, rfl⟩⟩
    simp [Machine.loop, FormValidator.inRange, Machine.advance, Program.length, first, execute_error]

/-- **The validator reports an age out of range**, and never fails. -/
theorem check_inRange (enough : 4 ≤ options.maxSteps) (ofAge : s.get? "age" = some age)
    (ofBounds : ∀ b : Bound, s.get? b.name = some (bounds b)) :
    (InRange bounds age → FormValidator.inRange.check options s = .ok none) ∧
    (¬ InRange bounds age → FormValidator.inRange.check options s = .ok (some (report bounds age))) := by
  have lower : s.get? "minAge" = some (bounds .lower) := ofBounds .lower
  have upper : s.get? "maxAge" = some (bounds .upper) := ofBounds .upper
  have fields : FormValidator.inRange.referencedFields s =
      .ofList [("age", age), ("minAge", bounds .lower), ("maxAge", bounds .upper)] := by
    have names : FormValidator.inRange.program.referencedNames = ["age", "minAge", "maxAge"] := by
      decide +kernel
    simp [FormValidator.referencedFields, names, ofAge, lower, upper]
  have truthy : (Value.text "error").isTruthy = true := by decide +kernel
  obtain ⟨passes, fails⟩ := run_inRange relation enough ofAge ofBounds
  constructor
  · intro within
    obtain ⟨r, ran, result⟩ := passes within
    rw [FormValidator.check, ran]
    simp [Except.map, result]
  · intro out
    obtain ⟨r, ran, result⟩ := fails out
    have name : FormValidator.inRange.name = "inRange" := rfl
    have message : FormValidator.inRange.message = "value age not in a range" := rfl
    rw [FormValidator.check, ran]
    simp [Except.map, result, truthy, name, message, fields, report]

end

/-! ## The form -/

/-- The form with nothing but an age and its bounds. -/
def plain : FormDefinition where
  name := "age-range"
  fields :=
    [{ name := "age"
       dependencies := some ["minAge", "maxAge"]
       programs := some
        ["jrgt age minAge 2;s age minAge;sp age min minAge;jrgt maxAge age 2;s age maxAge;sp age max maxAge"]
       validators := [⟨"inRange", "value age not in a range",
         "jrgt age minAge 2;setres error;jrgt maxAge age 2;setres error"⟩] },
     { name := "minAge"
       dependencies := some ["maxAge"]
       programs := some ["jrgt maxAge minAge 2;s minAge maxAge;sp minAge max maxAge"] },
     { name := "maxAge"
       dependencies := some ["minAge"]
       programs := some ["jrgt maxAge minAge 2;s maxAge minAge;sp maxAge min minAge"] }]

/-- The form of the demonstration: its programs have a space behind each semicolon, and there is a
nickname. -/
def demonstration : FormDefinition where
  name := "age-range"
  fields :=
    [{ name := "age"
       dependencies := some ["minAge", "maxAge"]
       programs := some
        ["jrgt age minAge 2; s age minAge; sp age min minAge; jrgt maxAge age 2; s age maxAge; sp age max maxAge"]
       validators := [⟨"inRange", "value age not in a range",
         "jrgt age minAge 2; setres error; jrgt maxAge age 2; setres error"⟩] },
     { name := "minAge"
       dependencies := some ["maxAge"]
       programs := some ["jrgt maxAge minAge 2; s minAge maxAge; sp minAge max maxAge"] },
     { name := "maxAge"
       dependencies := some ["minAge"]
       programs := some ["jrgt maxAge minAge 2; s maxAge minAge; sp maxAge min minAge"] },
     { name := "nickname", rules := some "[minlen][3][_0_][maxlen][10]" }]

section

variable {d : FormDefinition} {f g : Form}

theorem subscriptions_eq (form : d ∈ [plain, demonstration]) (built : Form.build d options = .ok f) :
    f.subscriptions = rules := by
  rw [Form.subscriptions_of_build built]
  rcases List.mem_pair.1 form with rfl | rfl <;> decide +kernel

theorem validators_eq (form : d ∈ [plain, demonstration]) (built : Form.build d options = .ok f) :
    f.validators = [FormValidator.inRange] := by
  rw [Form.validators_of_build built]
  rcases List.mem_pair.1 form with rfl | rfl <;> decide +kernel

/-- Every form of these definitions has an age and two bounds. -/
theorem exists_holds (form : d ∈ [plain, demonstration]) (built : Form.build d options = .ok f)
    (kin : Form.Kin f g) : ∃ bounds age, Holds g bounds age := by
  have names : g.store.names = d.fieldNames := kin.names.trans (Form.names_of_build built)
  have declared : ∀ name ∈ ["age", "minAge", "maxAge"], name ∈ d.fieldNames := by
    rcases List.mem_pair.1 form with rfl | rfl <;> decide
  have holds : ∀ name ∈ ["age", "minAge", "maxAge"], ∃ value, g.value? name = some value := by
    intro name mem
    exact Option.isSome_iff_exists.1 (Store.contains_iff.2 (names ▸ declared name mem))
  obtain ⟨age, ofAge⟩ := holds "age" (by decide)
  obtain ⟨lower, ofLower⟩ := holds "minAge" (by decide)
  obtain ⟨upper, ofUpper⟩ := holds "maxAge" (by decide)
  refine ⟨fun | .lower => lower | .upper => upper, age, ofAge, fun b => ?_⟩
  cases b with
  | lower => exact ofLower
  | upper => exact ofUpper

/-- **The age-range form keeps its bounds.** Whatever its three values are, after a change of a bound to a
value that counts as a number the bound has that value and the age is between the bounds; no program has
failed, and the same change once more writes nothing else. Judging the form finds the age out of range exactly
if it is, and nothing else wrong with the form as a whole. -/
theorem keeps_range (form : d ∈ [plain, demonstration]) (built : Form.build d options = .ok f)
    (relation : options.relation = .greaterOrEqual) (enough : 6 ≤ options.maxSteps) (kin : Form.Kin f g) :
    ∃ bounds age, Holds g bounds age ∧
      (∀ (b : Bound) (v : Value), v.toNumber ≠ .nan →
        ∃ g' j bounds' age', g.setValue b.name v = .ok (g', j) ∧ Holds g' bounds' age' ∧
          InRange bounds' age' ∧ bounds' b = v ∧ j.failures = [] ∧
          ∃ g'' j', g'.setValue b.name v = .ok (g'', j') ∧ j'.propagated = []) ∧
      g.validate.faults = [] ∧
      (InRange bounds age → g.validate.formErrors = []) ∧
      (¬ InRange bounds age → g.validate.formErrors = [report bounds age]) := by
  have ofOptions : g.options = options := by
    obtain ⟨-, rfl⟩ := Form.of_build built
    exact kin.options
  have ofRules : g.subscriptions = rules := kin.subscriptions.trans (subscriptions_eq form built)
  have ofValidators : g.validators = [FormValidator.inRange] :=
    kin.validators.trans (validators_eq form built)
  obtain ⟨bounds, age, holds⟩ := exists_holds form built kin
  obtain ⟨passes, fails⟩ := check_inRange relation (by omega) holds.age holds.bounds
  refine ⟨bounds, age, holds, ?_, ?_, ?_, ?_⟩
  · intro b v real
    obtain ⟨g', j, bounds', age', changed, holds', kept, inRange, failures, -⟩ :=
      setValue_bound relation enough ofOptions ofRules holds b real
    refine ⟨g', j, bounds', age', changed, holds', inRange, kept, failures, ?_⟩
    have kin' : Form.Kin g g' := Form.kin_of_setValue changed
    obtain ⟨g'', j', -, -, again, -, -, -, -, quiet⟩ :=
      setValue_bound relation enough (kin'.options.trans ofOptions) (kin'.subscriptions.trans ofRules)
        holds' b real
    have same : Function.update bounds' b v = bounds' := by
      rw [← kept]
      exact Function.update_eq_self b bounds'
    exact ⟨g'', j', again, quiet (by rw [same]; exact inRange)⟩
  · by_cases inRange : InRange bounds age
    · simp [Form.faults_eq, ofValidators, ofOptions, FormValidator.fault?, passes inRange]
    · simp [Form.faults_eq, ofValidators, ofOptions, FormValidator.fault?, fails inRange]
  · intro inRange
    simp [Form.formErrors_eq, ofValidators, ofOptions, FormValidator.failure?, passes inRange]
  · intro out
    simp [Form.formErrors_eq, ofValidators, ofOptions, FormValidator.failure?, fails out]

/-- A demonstration whose bounds have been crossed. -/
def crossed : Form :=
  { Form.assemble demonstration {} with
    store := ⟨[("age", .text "30"), ("minAge", .text "65"), ("maxAge", .null), ("nickname", .null)]⟩ }

theorem crossed_keeps_range :
    demonstration ∈ [plain, demonstration] ∧
      Form.build demonstration {} = .ok (Form.assemble demonstration {}) ∧
      ({} : RunOptions).relation = .greaterOrEqual ∧ 6 ≤ ({} : RunOptions).maxSteps ∧
      Form.Kin (Form.assemble demonstration {}) crossed ∧
      (Value.text "70").toNumber ≠ .nan ∧
      ∃ g' j bounds' age', crossed.setValue "minAge" (.text "70") = .ok (g', j) ∧ Holds g' bounds' age' ∧
        InRange bounds' age' ∧ bounds' .lower = .text "70" ∧ j.failures = [] ∧
        ∃ g'' j', g'.setValue "minAge" (.text "70") = .ok (g'', j') ∧ j'.propagated = [] := by
  have form : demonstration ∈ [plain, demonstration] := by simp
  have built : Form.build demonstration {} = .ok (Form.assemble demonstration {}) := rfl
  have kin : Form.Kin (Form.assemble demonstration {}) crossed :=
    Form.kin_of_store (Form.names_of_build built).symm
  have real : (Value.text "70").toNumber ≠ .nan := by decide +kernel
  have enough : 6 ≤ ({} : RunOptions).maxSteps := by decide
  obtain ⟨bounds, age, -, changes, -⟩ := keeps_range form built rfl enough kin
  exact ⟨form, built, rfl, enough, kin, real, changes .lower (.text "70") real⟩

end

end AgeRange

end Formulary
