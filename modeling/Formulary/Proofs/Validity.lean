import Formulary.Form.Validity
import Formulary.Proofs.Setup
import Formulary.Proofs.Validator

/-!
# What a judgement tells

A judgement is put together from maps, in which one entry could take the place of another, and from lists
that are filled apart. Nothing gets lost on the way. The field names of a form differ, so each field with
a broken rule has its entry, in which a key keeps the last violation (`get?_fieldViolations`,
`get?_violations`); and each validator adds to the judgement one thing or nothing (`Judged`). So a form is
valid exactly if all its rules hold and all its validators pass (`Form.validate_exact`).
-/

namespace Formulary

namespace LengthRule

/-- A violation is reported under the key of its rule. -/
theorem key_of_check {r : LengthRule} {value : Value} {violation : LengthViolation}
    (broken : r.check value = some violation) : violation.key = r.key := by
  unfold check at broken
  obtain ⟨actual, -, made⟩ := Option.bind_eq_some_iff.1 broken
  split at made
  · cases made
    rfl
  · cases made

end LengthRule

namespace Validity

variable {rules : List LengthRule} {value : Value} {key : String}

/-! ## Length rules -/

/-- Under a key stands the violation of the last rule with that key that is broken. -/
theorem get?_violations :
    (violations rules value).get? key =
      ((rules.filter (·.key == key)).filterMap (·.check value)).getLast? := by
  have ofKey : (rules.filterMap (·.check value)).filter (·.key == key) =
      (rules.filter (·.key == key)).filterMap (·.check value) := by
    rw [List.filter_filterMap, List.filterMap_filter]
    apply List.filterMap_congr
    intro r _
    cases broken : r.check value with
    | none => simp
    | some violation =>
      rw [← LengthRule.key_of_check broken]
      by_cases same : violation.key = key <;> simp [same]
  rw [violations, NameMap.get?_ofList, ← ofKey, List.getLast?_eq_head?_reverse, ← List.filter_reverse,
    List.head?_filter, ← List.map_reverse, List.find?_map, Option.map_map]
  simp [Function.comp_def]

theorem isEmpty_violations :
    (violations rules value).isEmpty = true ↔ ∀ r ∈ rules, r.check value = none := by
  rw [violations, NameMap.isEmpty_ofList, List.isEmpty_iff, List.map_eq_nil_iff, List.filterMap_eq_nil_iff]

variable {s : Store} {lists : List (String × List LengthRule)} {field : String}

/-- A field has an entry, the violations of its rules, if there are any. -/
theorem get?_fieldViolations (distinct : (lists.map (·.1)).Nodup) {errors : NameMap LengthViolation} :
    (fieldViolations s lists).get? field = some errors ↔
      ∃ rules, (field, rules) ∈ lists ∧ errors = violations rules ((s.get? field).getD .null) ∧
        errors.isEmpty = false := by
  have apart : ∀ entries : List (String × NameMap LengthViolation),
      entries.map (·.1) = lists.map (·.1) → ((entries.filter (!·.2.isEmpty)).map (·.1)).Nodup := by
    intro entries names
    refine (List.Sublist.map _ List.filter_sublist).nodup ?_
    rw [names]
    exact distinct
  rw [fieldViolations, NameMap.get?_ofList_eq_some_iff (apart _ (by simp)), List.mem_filter, List.mem_map]
  constructor
  · rintro ⟨⟨⟨field, rules⟩, mem, same⟩, broken⟩
    cases same
    exact ⟨rules, mem, rfl, by simpa using broken⟩
  · rintro ⟨rules, mem, rfl, broken⟩
    exact ⟨⟨(field, rules), mem, rfl⟩, by simpa using broken⟩

theorem isEmpty_fieldViolations :
    (fieldViolations s lists).isEmpty = true ↔
      ∀ field rules, (field, rules) ∈ lists →
        ∀ r ∈ rules, r.check ((s.get? field).getD .null) = none := by
  rw [fieldViolations, NameMap.isEmpty_ofList, List.isEmpty_iff, List.filter_eq_nil_iff]
  constructor
  · intro clean field rules mem
    have empty := clean _ (List.mem_map.2 ⟨(field, rules), mem, rfl⟩)
    apply isEmpty_violations.1
    simpa using empty
  · intro hold entry mem
    obtain ⟨⟨field, rules⟩, listed, rfl⟩ := List.mem_map.1 mem
    have empty := isEmpty_violations.2 (hold field rules listed)
    simp [empty]

/-! ## Form validators -/

/-- What validators, judging the values of a store one after another, add to a judgement: one that ends
without a truthy result nothing, one with a truthy result a failure, and one whose program fails a
fault. -/
inductive Judged (options : RunOptions) (s : Store) :
    List FormValidator → List ValidationFailure → List ValidatorFault → Prop where
  | nil : Judged options s [] [] []
  | passed {v vs failures faults r} (ran : v.run options s = .ok r)
      (falsy : ∀ marker, r.result = some marker → marker.isTruthy = false)
      (others : Judged options s vs failures faults) : Judged options s (v :: vs) failures faults
  | failed {v vs failures faults r marker} (ran : v.run options s = .ok r)
      (result : r.result = some marker) (truthy : marker.isTruthy = true)
      (others : Judged options s vs failures faults) :
      Judged options s (v :: vs) (⟨v.name, v.message, marker, v.referencedFields s⟩ :: failures) faults
  | faulty {v vs failures faults e} (ran : v.run options s = .error e)
      (others : Judged options s vs failures faults) :
      Judged options s (v :: vs) failures (⟨v.field, v.name, e⟩ :: faults)

end Validity

namespace FormValidator

variable {v : FormValidator} {options : RunOptions} {s : Store}

/-- The failure a validator comes to, if it comes to one. -/
def failure? (v : FormValidator) (options : RunOptions) (s : Store) : Option ValidationFailure :=
  match v.check options s with
  | .ok failure => failure
  | .error _ => none

/-- The fault a validator comes to, if it comes to one. -/
def fault? (v : FormValidator) (options : RunOptions) (s : Store) : Option ValidatorFault :=
  match v.check options s with
  | .ok _ => none
  | .error error => some ⟨v.field, v.name, error⟩

theorem check_eq_ok_none_iff :
    v.check options s = .ok none ↔ v.failure? options s = none ∧ v.fault? options s = none := by
  unfold failure? fault?
  cases v.check options s with
  | ok failure => simp
  | error e => simp

end FormValidator

namespace Validity

variable {options : RunOptions} {s : Store}

theorem judged (vs : List FormValidator) :
    Judged options s vs (vs.filterMap (·.failure? options s)) (vs.filterMap (·.fault? options s)) := by
  induction vs with
  | nil => exact .nil
  | cons v vs ih =>
    cases ran : v.run options s with
    | error e =>
      have failure : v.failure? options s = none := by
        simp [FormValidator.failure?, FormValidator.check, ran, Except.map]
      have fault : v.fault? options s = some ⟨v.field, v.name, e⟩ := by
        simp [FormValidator.fault?, FormValidator.check, ran, Except.map]
      simp only [List.filterMap_cons, failure, fault]
      exact .faulty ran ih
    | ok r =>
      have fault : v.fault? options s = none := by
        simp [FormValidator.fault?, FormValidator.check, ran, Except.map]
      cases marked : r.result.filter Value.isTruthy with
      | none =>
        have failure : v.failure? options s = none := by
          simp [FormValidator.failure?, FormValidator.check, ran, Except.map, marked]
        simp only [List.filterMap_cons, failure, fault]
        apply Judged.passed ran _ ih
        intro marker result
        simpa [result] using marked
      | some marker =>
        have failure : v.failure? options s =
            some ⟨v.name, v.message, marker, v.referencedFields s⟩ := by
          simp [FormValidator.failure?, FormValidator.check, ran, Except.map, marked]
        obtain ⟨result, truthy⟩ := Option.filter_eq_some_iff.1 marked
        simp only [List.filterMap_cons, failure, fault]
        exact .failed ran result truthy ih

end Validity

namespace Form

open Validity

variable {d : FormDefinition} {options : RunOptions} {f g : Form}

/-- A field has one list of length rules at most, whatever requests have been made. -/
theorem nodup_lengthRules (built : build d options = .ok f) (kin : Kin f g) :
    (g.lengthRules.map (·.1)).Nodup := by
  rw [kin.lengthRules]
  exact nodup_lengthRules_of_build built

/-- Every field of the definition has a value, whatever requests have been made. -/
theorem exists_value (built : build d options = .ok f) (kin : Kin f g) {fd : FieldDefinition}
    (mem : fd ∈ d.fields) : ∃ value, g.value? fd.name = some value := by
  have declared : fd.name ∈ g.store.names := by
    rw [kin.names, names_of_build built]
    exact List.mem_map_of_mem mem
  exact Option.isSome_iff_exists.1 (Store.contains_iff.2 declared)

theorem formErrors_eq : f.validate.formErrors = f.validators.filterMap (·.failure? f.options f.store) :=
  rfl

theorem faults_eq : f.validate.faults = f.validators.filterMap (·.fault? f.options f.store) :=
  rfl

/-- No validator has anything to add exactly if every one passes. -/
theorem formErrors_faults_eq_nil_iff :
    (f.validate.formErrors = [] ∧ f.validate.faults = []) ↔
      ∀ v ∈ f.validators, v.check f.options f.store = .ok none := by
  rw [formErrors_eq, faults_eq, List.filterMap_eq_nil_iff, List.filterMap_eq_nil_iff]
  constructor
  · rintro ⟨failures, faults⟩ v mem
    exact FormValidator.check_eq_ok_none_iff.2 ⟨failures v mem, faults v mem⟩
  · intro pass
    constructor
    · exact fun v mem => (FormValidator.check_eq_ok_none_iff.1 (pass v mem)).1
    · exact fun v mem => (FormValidator.check_eq_ok_none_iff.1 (pass v mem)).2

theorem valid_iff :
    f.validate.valid = true ↔
      f.validate.fieldErrors.isEmpty = true ∧ f.validate.formErrors = [] ∧ f.validate.faults = [] := by
  simp only [Validity.valid, Bool.and_eq_true, List.isEmpty_iff, and_assoc]

/-- The errors of a field are the violations of its rules, if there are any. -/
theorem get?_fieldErrors_iff (built : build d options = .ok f) (kin : Kin f g) {fd : FieldDefinition}
    {rules : List LengthRule} {value : Value} {errors : NameMap LengthViolation} (mem : fd ∈ d.fields)
    (read : fd.lengthRules = .ok rules) (holds : g.value? fd.name = some value) :
    g.validate.fieldErrors.get? fd.name = some errors ↔
      errors = violations rules value ∧ errors.isEmpty = false := by
  have current : (g.store.get? fd.name).getD .null = value := by
    change (g.value? fd.name).getD .null = value
    rw [holds]
    rfl
  have entries : g.validate.fieldErrors.get? fd.name = some errors ↔
      ∃ rules, (fd.name, rules) ∈ g.lengthRules ∧
        errors = violations rules ((g.store.get? fd.name).getD .null) ∧ errors.isEmpty = false :=
    get?_fieldViolations (nodup_lengthRules built kin)
  rw [entries, current, kin.lengthRules]
  constructor
  · rintro ⟨rules', listed, rfl, broken⟩
    obtain ⟨-, fd', mem', same, read'⟩ := (mem_lengthRules_of_build built).1 listed
    -- the names of the definition differ, so there is no other field the list could be of
    have equal : fd' = fd := List.inj_on_of_nodup_map (of_build built).1 mem' mem same
    subst equal
    rw [read] at read'
    cases read'
    exact ⟨rfl, broken⟩
  · rintro ⟨rfl, broken⟩
    have nonempty : rules ≠ [] := by
      rintro rfl
      cases broken
    exact ⟨rules, (mem_lengthRules_of_build built).2 ⟨nonempty, fd, mem, rfl, read⟩, rfl, broken⟩

theorem contains_fieldErrors_iff (built : build d options = .ok f) (kin : Kin f g) {name : String} :
    g.validate.fieldErrors.contains name = true ↔
      ∃ fd ∈ d.fields, fd.name = name ∧ ∃ rules, fd.lengthRules = .ok rules ∧
        ∃ value, g.value? name = some value ∧ ∃ r ∈ rules, r.check value ≠ none := by
  rw [NameMap.contains_eq_isSome, Option.isSome_iff_exists]
  constructor
  · rintro ⟨errors, found⟩
    obtain ⟨rules, listed, -, -⟩ := (get?_fieldViolations (nodup_lengthRules built kin)).1 found
    rw [kin.lengthRules] at listed
    obtain ⟨-, fd, mem, rfl, read⟩ := (mem_lengthRules_of_build built).1 listed
    obtain ⟨value, holds⟩ := exists_value built kin mem
    obtain ⟨rfl, entries⟩ := (get?_fieldErrors_iff built kin mem read holds).1 found
    refine ⟨fd, mem, rfl, rules, read, value, holds, ?_⟩
    by_contra unbroken
    have pass : ∀ r ∈ rules, r.check value = .none := by
      intro r among
      by_contra broken
      exact unbroken ⟨r, among, broken⟩
    rw [isEmpty_violations.2 pass] at entries
    cases entries
  · rintro ⟨fd, mem, rfl, rules, read, value, holds, r, among, broken⟩
    refine ⟨violations rules value, (get?_fieldErrors_iff built kin mem read holds).2 ⟨rfl, ?_⟩⟩
    rw [← Bool.not_eq_true]
    intro empty
    exact broken (isEmpty_violations.1 empty r among)

/-- No field has an entry exactly if every rule of every field holds. -/
theorem isEmpty_fieldErrors_iff (built : build d options = .ok f) (kin : Kin f g) :
    g.validate.fieldErrors.isEmpty = true ↔
      ∀ fd ∈ d.fields, ∀ rules, fd.lengthRules = .ok rules →
        ∃ value, g.value? fd.name = some value ∧ ∀ r ∈ rules, r.check value = none := by
  have lists : g.validate.fieldErrors.isEmpty = true ↔
      ∀ name rules, (name, rules) ∈ g.lengthRules →
        ∀ r ∈ rules, r.check ((g.store.get? name).getD .null) = none :=
    isEmpty_fieldViolations
  rw [lists, kin.lengthRules]
  constructor
  · intro pass fd mem rules read
    obtain ⟨value, holds⟩ := exists_value built kin mem
    refine ⟨value, holds, fun r among => ?_⟩
    have nonempty : rules ≠ [] := List.ne_nil_of_mem among
    have checked := pass fd.name rules
      ((mem_lengthRules_of_build built).2 ⟨nonempty, fd, mem, rfl, read⟩) r among
    change r.check ((g.value? fd.name).getD .null) = none at checked
    rwa [holds] at checked
  · intro pass name rules listed r among
    obtain ⟨-, fd, mem, rfl, read⟩ := (mem_lengthRules_of_build built).1 listed
    obtain ⟨value, holds, checked⟩ := pass fd mem rules read
    change r.check ((g.value? fd.name).getD .null) = none
    rw [holds]
    exact checked r among

/-- **A judgement is complete and exact.** A form is valid exactly if every rule of every list of length
rules that could be read holds of the value of its field, and every form validator that compiles passes.
A field has an entry among the errors exactly if one of its rules is broken, and a key of the entry holds
the violation of the last rule with that key that is broken. Each validator adds one failure or one fault
or nothing, in the order of declaration. -/
theorem validate_exact (built : build d options = .ok f) (kin : Kin f g) :
    (g.validate.valid = true ↔
      (∀ fd ∈ d.fields, ∀ rules, fd.lengthRules = .ok rules →
        ∃ value, g.value? fd.name = some value ∧ ∀ r ∈ rules, r.check value = none) ∧
      ∀ v ∈ d.formValidators, v.check g.options g.store = .ok none) ∧
    (∀ name, g.validate.fieldErrors.contains name = true ↔
      ∃ fd ∈ d.fields, fd.name = name ∧ ∃ rules, fd.lengthRules = .ok rules ∧
        ∃ value, g.value? name = some value ∧ ∃ r ∈ rules, r.check value ≠ none) ∧
    (∀ fd ∈ d.fields, ∀ rules, fd.lengthRules = .ok rules →
      ∃ value, g.value? fd.name = some value ∧
        ∀ errors, g.validate.fieldErrors.get? fd.name = some errors → ∀ key,
          errors.get? key = ((rules.filter (·.key == key)).filterMap (·.check value)).getLast?) ∧
    Judged g.options g.store d.formValidators g.validate.formErrors g.validate.faults := by
  have validators : g.validators = d.formValidators := by
    rw [kin.validators, validators_of_build built]
  refine ⟨?_, fun name => contains_fieldErrors_iff built kin, fun fd mem rules read => ?_, ?_⟩
  · rw [valid_iff, isEmpty_fieldErrors_iff built kin, formErrors_faults_eq_nil_iff, validators]
  · obtain ⟨value, holds⟩ := exists_value built kin mem
    refine ⟨value, holds, fun errors found key => ?_⟩
    obtain ⟨rfl, -⟩ := (get?_fieldErrors_iff built kin mem read holds).1 found
    exact get?_violations
  · rw [formErrors_eq, faults_eq, validators]
    exact judged d.formValidators

/-- A nickname with a bound that is broken twice over. Of its validators one passes and one finds the form
invalid. -/
def nickname : FieldDefinition where
  name := "nick"
  rules := some "[minlen][3][_0_][maxlen][8][_0_][maxlen][5]"
  validators :=
    [⟨"open", "the book is closed", "jrgt 0 1 1;setres null"⟩, ⟨"full", "no page left", "setres full"⟩]

/-- A nickname, and an age with rules that cannot be read, one validator that fails for want of a field
and one that does not compile. -/
def guestbook : FormDefinition where
  fields :=
    [nickname,
     { name := "age", rules := some "[minlen][many]",
       validators := [⟨"adult", "too young", "jrgt age years 1"⟩, ⟨"none", "nothing", ";"⟩] }]

theorem guestbook_exact :
    let blank := assemble guestbook {}
    let signed : Form := { blank with store := ⟨[("nick", .text "Maximilian"), ("age", .null)]⟩ }
    build guestbook {} = .ok blank ∧ Kin blank signed ∧
      signed.validate.fieldErrors.contains "nick" = true ∧
      (∃ errors, signed.validate.fieldErrors.get? "nick" = some errors ∧
        errors.get? "maxlength" = some ⟨"maxlength", 5, 10⟩) ∧
      signed.validate.valid = false ∧
      Judged {} signed.store guestbook.formValidators
        [⟨"full", "no page left", .text "full", .empty⟩] [⟨"age", "adult", .missingField 0 "years"⟩] := by
  intro blank signed
  have built : build guestbook {} = .ok blank := by decide +kernel
  have loaded : blank.loadValues [("nick", .text "Maximilian")] = .ok signed := by decide +kernel
  have kin : Kin blank signed := kin_of_requests .refl (.single (.loadValues loaded))
  have mem : nickname ∈ guestbook.fields := List.mem_cons_self
  have read : nickname.lengthRules = .ok [.min 3, .max 8, .max 5] := by decide +kernel
  have holds : signed.value? nickname.name = some (.text "Maximilian") := by decide +kernel
  have broken : LengthRule.check (.max 5) (.text "Maximilian") = some ⟨"maxlength", 5, 10⟩ := by
    decide +kernel
  obtain ⟨valid, fields, keys, judged⟩ := validate_exact built kin
  have contains : signed.validate.fieldErrors.contains "nick" = true := by
    refine (fields "nick").2 ⟨nickname, mem, rfl, _, read, _, holds, .max 5, by decide, ?_⟩
    rw [broken]
    exact Option.some_ne_none _
  refine ⟨built, kin, contains, ?_, ?_, ?_⟩
  · rw [NameMap.contains_eq_isSome] at contains
    obtain ⟨errors, found⟩ := Option.isSome_iff_exists.1 contains
    obtain ⟨value, holds', entry⟩ := keys nickname mem _ read
    rw [holds] at holds'
    cases holds'
    refine ⟨errors, found, ?_⟩
    rw [entry errors found "maxlength"]
    decide +kernel
  · rw [← Bool.not_eq_true]
    intro passes
    obtain ⟨value, holds', pass⟩ := (valid.1 passes).1 nickname mem _ read
    rw [holds] at holds'
    cases holds'
    have held := pass (.max 5) (by decide)
    rw [broken] at held
    cases held
  · have failures : signed.validate.formErrors = [⟨"full", "no page left", .text "full", .empty⟩] := by
      decide +kernel
    have faults : signed.validate.faults = [⟨"age", "adult", .missingField 0 "years"⟩] := by
      decide +kernel
    rw [failures, faults] at judged
    exact judged

end Form

end Formulary
