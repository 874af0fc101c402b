import Formulary.Form.Validator
import Formulary.Proofs.NameMap
import Formulary.Proofs.Rule.Validation
import Formulary.Proofs.Store

/-!
# What a validator judges

A validator looks at nothing but the values of the names its program refers to (`check_congr`), so a
report, which carries these values, says all that is needed to come to it again. Nor does the verdict
depend on the step limit, as soon as the limit is at least the number of rows
(`check_of_enough_steps`).
-/

namespace Formulary.FormValidator

open Machine

variable {v : FormValidator} {options : RunOptions} {s t : Store} {e : RuleError} {name : String}
  {failure : ValidationFailure}

/-- A validator runs as a program that judges does. -/
theorem run_eq_loop :
    v.run options s =
      (loop host options v.program (options.maxSteps - 0) { context := .validation } s).1 :=
  rfl

/-! ## The values a verdict depends on -/

theorem referencedFields_congr (reads : ∀ name ∈ v.program.referencedNames, t.get? name = s.get? name) :
    v.referencedFields t = v.referencedFields s := by
  unfold referencedFields
  congr 1
  refine List.filterMap_congr fun name mem => ?_
  rw [reads name mem]

theorem run_congr (reads : ∀ name ∈ v.program.referencedNames, t.get? name = s.get? name) :
    v.run options t = v.run options s := by
  rw [run_eq_loop, run_eq_loop]
  refine loop_congr _ _ _ rfl fun row has operand mem => ?_
  exact (reads operand (Program.mem_referencedNames_of_valueOperands has mem)).symm

/-- **A verdict depends on the values of the names the program refers to and on nothing else.** -/
theorem check_congr (reads : ∀ name ∈ v.program.referencedNames, t.get? name = s.get? name) :
    v.check options t = v.check options s := by
  simp only [check, run_congr reads, referencedFields_congr reads]

/-- A report carries for each name the program refers to the value it had. -/
theorem get?_referencedFields (refers : name ∈ v.program.referencedNames) :
    (v.referencedFields s).get? name = s.get? name := by
  rw [referencedFields, NameMap.get?_ofList]
  generalize listed : v.program.referencedNames.filterMap
    (fun name => (s.get? name).map fun value => (name, value)) = entries
  cases found : entries.reverse.find? (·.1 == name) with
  | none =>
    cases holds : s.get? name with
    | none => rfl
    | some value =>
      have mem : (name, value) ∈ entries := by
        rw [← listed]
        exact List.mem_filterMap.2 ⟨name, refers, by rw [holds]; rfl⟩
      have missed := List.find?_eq_none.1 found (name, value) (List.mem_reverse.2 mem)
      simp at missed
  | some entry =>
    have named : entry.1 = name := by simpa using List.find?_some found
    have mem : entry ∈ entries := List.mem_reverse.1 (List.mem_of_find?_eq_some found)
    rw [← listed] at mem
    obtain ⟨n, -, made⟩ := List.mem_filterMap.1 mem
    obtain ⟨value, holds, rfl⟩ := Option.map_eq_some_iff.1 made
    subst named
    exact holds.symm

theorem fields_of_check (failed : v.check options s = .ok (some failure)) :
    failure.fields = v.referencedFields s := by
  unfold check at failed
  cases ran : v.run options s with
  | error e =>
    rw [ran] at failed
    cases failed
  | ok r =>
    rw [ran] at failed
    cases marked : r.result.filter Value.isTruthy with
    | none => simp [Except.map, marked] at failed
    | some marker =>
      simp only [Except.map, marked, Option.map_some] at failed
      cases failed
      rfl

/-- **A report is sufficient to reproduce it.** Stores that agree on the names the program of a
validator refers to are judged alike; in particular a store that declares the fields of a report,
in any order, and nothing else, is judged by the same report again. -/
theorem check_determined (v : FormValidator) (options : RunOptions) (s : Store) :
    (∀ t, (∀ name ∈ v.program.referencedNames, t.get? name = s.get? name) →
      v.check options t = v.check options s) ∧
    (∀ failure, v.check options s = .ok (some failure) →
      ∀ fields, fields.Perm failure.fields.entries →
        v.check options (Store.empty.declareAll fields) = .ok (some failure)) := by
  refine ⟨fun t reads => check_congr reads, fun failure failed fields perm => ?_⟩
  have distinct : (failure.fields.entries.map (·.1)).Nodup := failure.fields.nodup_names
  have declared : (Store.empty.declareAll fields).fields = fields :=
    Store.fields_declareAll ((perm.map _).nodup_iff.2 distinct) fun _ _ => List.not_mem_nil
  rw [← failed]
  refine check_congr fun name refers => ?_
  calc (Store.empty.declareAll fields).get? name
      = Store.find? name fields := by rw [Store.get?, declared]
    _ = Store.find? name failure.fields.entries := Store.find?_of_perm distinct perm
    _ = failure.fields.get? name := Store.find?_eq_find?
    _ = s.get? name := by rw [fields_of_check failed, get?_referencedFields refers]

/-- The age is within its bounds. -/
def inRange : FormValidator :=
  ⟨"age", "inRange", "value age not in a range",
    ⟨[⟨"jrgt", ["age", "minAge", "2"]⟩, ⟨"setres", ["error"]⟩, ⟨"jrgt", ["maxAge", "age", "2"]⟩,
      ⟨"setres", ["error"]⟩]⟩⟩

theorem inRange_determined :
    let young : Store :=
      ⟨[("age", .text "10"), ("minAge", .text "18"), ("maxAge", .text "65"), ("title", .null)]⟩
    let noted : Store :=
      ⟨[("title", .text "Dr"), ("maxAge", .text "65"), ("minAge", .text "18"), ("age", .text "10")]⟩
    let report : ValidationFailure := ⟨"inRange", "value age not in a range", .text "error",
      .ofList [("age", .text "10"), ("maxAge", .text "65"), ("minAge", .text "18")]⟩
    (∀ name ∈ inRange.program.referencedNames, noted.get? name = young.get? name) ∧
      inRange.check {} noted = inRange.check {} young ∧
      inRange.check {} young = .ok (some report) ∧
      inRange.check {} (Store.empty.declareAll report.fields.entries.reverse) = .ok (some report) := by
  intro young noted report
  have reads : ∀ name ∈ inRange.program.referencedNames, noted.get? name = young.get? name := by
    decide +kernel
  have failed : inRange.check {} young = .ok (some report) := by decide +kernel
  obtain ⟨agree, again⟩ := check_determined inRange {} young
  exact ⟨reads, agree noted reads, failed, again report failed _ (List.reverse_perm _)⟩

/-! ## The errors of a validator -/

theorem check_eq_error_iff : v.check options s = .error e ↔ v.run options s = .error e := by
  unfold check
  cases v.run options s with
  | error e' => simp [Except.map]
  | ok r => simp [Except.map]

/-- **A validator fails at the step limit or because of a defect of its program.** -/
theorem mayFail_of_check (failed : v.check options s = .error e) :
    v.program.MayFail options .validation s.names e := by
  have declared : ∀ name ∈ s.names, (host.read s name).isSome = true :=
    fun name mem => Store.contains_iff.2 mem
  exact mayFail_of_loop _ _ _ rfl declared (check_eq_error_iff.1 failed)

/-! ## The step limit -/

/-- Under two limits of at least the number of rows a program is stopped by both or ends alike. -/
theorem run_of_enough_steps {options' : RunOptions} (same : options'.relation = options.relation)
    (enough : v.program.length ≤ options.maxSteps) (enough' : v.program.length ≤ options'.maxSteps) :
    (v.run options s = .error (.stepLimit options.maxSteps) ∧
        v.run options' s = .error (.stepLimit options'.maxSteps)) ∨
      (InTime (v.run options s) ∧ v.run options' s = v.run options s) := by
  rw [run_eq_loop, run_eq_loop]
  exact (loop_of_length_le same rfl enough enough').imp_right fun ⟨inTime, ends⟩ =>
    ⟨inTime, congrArg Prod.fst ends⟩

/-- **A verdict does not depend on the step limit once it is at least the number of rows**: under two
such limits the program is either stopped by both or judges alike. And a run that judges and is not
stopped executes no row twice, so at most as many rows as there are. They are what its counter counts,
and under a limit of fewer it is stopped. -/
theorem check_of_enough_steps (v : FormValidator) (s : Store) (relation : Relation) {limit limit' : Nat}
    (enough : v.program.length ≤ limit) (enough' : v.program.length ≤ limit') :
    ((v.check ⟨limit, relation⟩ s = .error (.stepLimit limit) ∧
        v.check ⟨limit', relation⟩ s = .error (.stepLimit limit')) ∨
      ((∀ n, v.check ⟨limit, relation⟩ s ≠ .error (.stepLimit n)) ∧
        v.check ⟨limit', relation⟩ s = v.check ⟨limit, relation⟩ s)) ∧
    ∀ {σ : Type} (h : Host σ) (t : σ),
      InTime (Machine.run h ⟨limit, relation⟩ v.program { context := .validation } t).1 →
        (runPath h ⟨limit, relation⟩ v.program { context := .validation } t).Nodup ∧
        (runPath h ⟨limit, relation⟩ v.program { context := .validation } t).length ≤ v.program.length ∧
        (∀ r t', Machine.run h ⟨limit, relation⟩ v.program { context := .validation } t = (.ok r, t') →
          r.steps = (runPath h ⟨limit, relation⟩ v.program { context := .validation } t).length) ∧
        ∀ fewer < (runPath h ⟨limit, relation⟩ v.program { context := .validation } t).length,
          (Machine.run h ⟨fewer, relation⟩ v.program { context := .validation } t).1 =
            .error (.stepLimit fewer) := by
  constructor
  · have ends : (v.run ⟨limit, relation⟩ s = .error (.stepLimit limit) ∧
          v.run ⟨limit', relation⟩ s = .error (.stepLimit limit')) ∨
        (InTime (v.run ⟨limit, relation⟩ s) ∧
          v.run ⟨limit', relation⟩ s = v.run ⟨limit, relation⟩ s) :=
      run_of_enough_steps rfl enough enough'
    rcases ends with ⟨stopped, stopped'⟩ | ⟨inTime, same⟩
    · exact .inl ⟨check_eq_error_iff.2 stopped, check_eq_error_iff.2 stopped'⟩
    · refine .inr ⟨fun n stopped => inTime n (check_eq_error_iff.1 stopped), ?_⟩
      rw [check, check, same]
  · intro σ h t inTime
    refine ⟨nodup_path _ _ _ rfl inTime, length_path_le rfl inTime, fun r t' ended => ?_, ?_⟩
    · exact (steps_of_loop _ _ _ _ _ ended).trans (Nat.zero_add _)
    · exact fun fewer short => loop_of_short rfl _ _ _ _ short

/-- A program that jumps over a row, back to it and is done. -/
def hops : FormValidator :=
  ⟨"age", "hops", "never", ⟨[⟨"jrgt", ["1", "0", "2"]⟩, ⟨"setres", ["0"]⟩, ⟨"jrgt", ["1", "0", "-1"]⟩]⟩⟩

theorem hops_of_enough_steps :
    hops.program.length ≤ 3 ∧ hops.program.length ≤ 1000 ∧
      hops.check ⟨1000, .greaterOrEqual⟩ .empty = hops.check ⟨3, .greaterOrEqual⟩ .empty ∧
      InTime (Machine.run host ⟨3, .greaterOrEqual⟩ hops.program { context := .validation } .empty).1 ∧
      (runPath host ⟨3, .greaterOrEqual⟩ hops.program { context := .validation } .empty).Nodup ∧
      (runPath host ⟨3, .greaterOrEqual⟩ hops.program { context := .validation } .empty).length ≤ 3 := by
  have enough : hops.program.length ≤ 3 := by decide
  have enough' : hops.program.length ≤ 1000 := by decide
  obtain ⟨verdict, executed⟩ := check_of_enough_steps hops .empty .greaterOrEqual enough enough'
  have passed : hops.check ⟨3, .greaterOrEqual⟩ .empty = .ok none := by decide +kernel
  have same : hops.check ⟨1000, .greaterOrEqual⟩ .empty = hops.check ⟨3, .greaterOrEqual⟩ .empty := by
    rcases verdict with ⟨stopped, -⟩ | ⟨-, same⟩
    · rw [passed] at stopped
      cases stopped
    · exact same
  have inTime : InTime
      (Machine.run host ⟨3, .greaterOrEqual⟩ hops.program { context := .validation } .empty).1 := by
    have ended : (Machine.run host ⟨3, .greaterOrEqual⟩ hops.program { context := .validation } .empty).1 =
        .ok { context := .validation, row := 3, result := some (Value.ofInput "0"), steps := 3 } := by
      decide +kernel
    rw [ended]
    exact nofun
  obtain ⟨distinct, short, -⟩ := executed host .empty inTime
  exact ⟨enough, enough', same, inTime, distinct, short⟩

end Formulary.FormValidator
