import Formulary.Proofs.Propagation.Abreast
import Formulary.Proofs.Rule.Jump

/-!
# Corrections

A correction is three rows: unless one field is at least another, a target is set to a source; then the
source is pushed. Whatever program it stands in, a run goes through it and on to the row behind
(`Runs.correction`), in at most as many steps as rows.
-/

namespace Formulary

/-- Unless the first field is at least the second, sets the target to the source; then pushes the source. -/
def Row.correction (a b target property source : String) : List Row :=
  [⟨"jrgt", [a, b, "2"]⟩, ⟨"s", [target, source]⟩, ⟨"sp", [target, property, source]⟩]

namespace Propagation

variable {options : RunOptions} {subscriptions : List Subscription} {a b target property source : String}

/-- What becomes of a change before the push of a correction of two values: nothing if the first is at least
the second, else the source is written to the target. -/
inductive Corrects (options : RunOptions) (subscriptions : List Subscription) (target source : String)
    (v w : Value) (c : Change) : Change → Prop where
  | inOrder (ordered : v.toNumber.atLeast w.toNumber = true) :
      Corrects options subscriptions target source v w c c
  | corrected {u c'} (less : v.toNumber.atLeast w.toNumber = false) (reads : c.store.get? source = some u)
      (written : Writes options subscriptions c target u .applied c') :
      Corrects options subscriptions target source v w c c'

/-- **A run goes through a correction**: it goes on at the row behind, with the correction made and the source
pushed. -/
theorem Runs.correction {p : Program} (before after : List Row) {steps : Nat} {c c₁ : Change} {v w u : Value}
    (shape : p.rows = before ++ (Row.correction a b target property source ++ after))
    (early : steps ≤ before.length) (enough : p.length ≤ options.maxSteps)
    (short : (p.length : Int) ≤ Int64.maxValue.toInt) (relation : options.relation = .greaterOrEqual)
    (reads : c.store.get? a = some v) (reads' : c.store.get? b = some w)
    (corrects : Corrects options subscriptions target source v w c c₁)
    (pushed : c₁.store.get? source = some u) :
    ∃ steps' ≤ before.length + 3, ∀ {answer c'},
      Runs options subscriptions p ⟨.propagation, before.length + 3, none, steps'⟩
        (c₁.push target property u).2 answer c' →
      Runs options subscriptions p ⟨.propagation, before.length, none, steps⟩ c answer c' := by
  have size : p.length = before.length + (3 + after.length) := by
    rw [Program.length, shape, List.length_append, List.length_append]
    rfl
  have jumps : p.rows[before.length]? = some ⟨"jrgt", [a, b, "2"]⟩ := by
    rw [shape, List.getElem?_append_right (Nat.le_refl _), Nat.sub_self]
    rfl
  have sets : p.rows[before.length + 1]? = some ⟨"s", [target, source]⟩ := by
    rw [shape, List.getElem?_append_right (by omega), Nat.add_sub_cancel_left]
    rfl
  have pushes : p.rows[before.length + 2]? = some ⟨"sp", [target, property, source]⟩ := by
    rw [shape, List.getElem?_append_right (by omega), Nat.add_sub_cancel_left]
    rfl
  have jump : Machine.demand reader options.relation .propagation c before.length ⟨"jrgt", [a, b, "2"]⟩ =
      .answer (.ok (if v.toNumber.atLeast w.toNumber then .jump 2 else .next)) := by
    rw [relation]
    exact Machine.demand_skip reads reads'
  have first : steps < options.maxSteps := by omega
  have second : steps + 1 < options.maxSteps := by omega
  have third : steps + 2 < options.maxSteps := by omega
  cases corrects with
  | inOrder ordered =>
    rw [ordered] at jump
    have skips : Machine.jumpTarget p.length before.length 2 = before.length + 2 :=
      Machine.jumpTarget_of_inside short (by omega) (by omega) (by omega)
    refine ⟨steps + 2, by omega, fun others => ?_⟩
    apply Runs.next jumps first (.answer jump)
    simp only [if_true, Machine.advance, skips]
    exact .next pushes second (executes_push (Machine.demand_push pushed)) others
  | corrected less readsSource written =>
    rw [less] at jump
    refine ⟨steps + 3, by omega, fun others => ?_⟩
    apply Runs.next jumps first (.answer jump)
    apply Runs.next sets second (.write (Machine.demand_set readsSource) written)
    exact .next pushes third (executes_push (Machine.demand_push pushed)) others

end Propagation

end Formulary
