import Formulary.Proofs.Reachable

/-!
# What building makes of a definition

A form that is built has the fields of its definition with their initial values (`fields_of_build`), the
length rules of the fields that have any (`lengthRules_of_build`), the form validators that compile
(`validators_of_build`) and the subscriptions that are in order (`subscriptions_of_build`), all in the order
of declaration. The programs of a field compile together or not at all: one issue among them, and there is
no subscription.
-/

namespace Formulary

namespace FormDefinition

/-- The form validators that compile, in order of declaration. -/
def formValidators (d : FormDefinition) : List FormValidator :=
  d.fields.flatMap fun f => f.validators.filterMap fun v => (FormValidator.compile f.name v).toOption

end FormDefinition

namespace FieldSetup

variable {field : String} {index : Nat} {sources : List String}

theorem compileValidators_fst {ds : List ValidatorDefinition} :
    (compileValidators field ds).1 = ds.filterMap fun v => (FormValidator.compile field v).toOption := by
  induction ds with
  | nil => rfl
  | cons d ds ih =>
    unfold compileValidators
    cases compiled : FormValidator.compile field d with
    | ok v => simp [compiled, ih, Except.toOption]
    | error e => simp [compiled, ih, Except.toOption]

/-- The programs are those of the sources that compile. -/
theorem compilePrograms_fst :
    (compilePrograms field index sources).1 =
      sources.filterMap fun source => (Program.compile source).toOption := by
  induction sources generalizing index with
  | nil => rfl
  | cons source sources ih =>
    unfold compilePrograms
    cases compiled : Program.compile source with
    | ok p => simp [compiled, ih, Except.toOption]
    | error e => simp [compiled, ih, Except.toOption]

/-- There is no issue with them if every source compiles. -/
theorem compilePrograms_snd_isEmpty :
    (compilePrograms field index sources).2.isEmpty = true ↔
      ∀ source ∈ sources, (Program.compile source).toOption.isSome = true := by
  induction sources generalizing index with
  | nil => simp [compilePrograms]
  | cons source sources ih =>
    unfold compilePrograms
    cases compiled : Program.compile source with
    | ok p => simp [compiled, ih, Except.toOption]
    | error e => simp [compiled, Except.toOption]

end FieldSetup

namespace Form

variable {d : FormDefinition} {options : RunOptions} {f : Form}

/-- A definition that can be built has distinct names, and its form is the one assembled of it. -/
theorem of_build (built : build d options = .ok f) : d.fieldNames.Nodup ∧ f = assemble d options := by
  unfold build at built
  split at built
  · rename_i named
    cases built
    exact ⟨FormDefinition.nodup_of_checkNames named, rfl⟩
  · cases built

theorem fields_of_build (built : build d options = .ok f) :
    f.store.fields = d.fields.map fun fd => (fd.name, fd.value) := by
  obtain ⟨distinct, rfl⟩ := of_build built
  have names : (d.fields.map fun fd => (fd.name, fd.value)).map (·.1) = d.fieldNames := by
    simp [FormDefinition.fieldNames]
  apply Store.fields_declareAll
  · rw [names]
    exact distinct
  · exact fun n _ => List.not_mem_nil

/-- The fields of a form are those of its definition. -/
theorem names_of_build (built : build d options = .ok f) : f.store.names = d.fieldNames := by
  rw [Store.names, fields_of_build built]
  simp [FormDefinition.fieldNames]

theorem lengthRules_of_build (built : build d options = .ok f) :
    f.lengthRules =
      (d.fields.map fun fd => (fd.name, (FieldSetup.rules fd).1)).filter (!·.2.isEmpty) := by
  obtain ⟨-, rfl⟩ := of_build built
  have rules : ∀ fd, (FieldSetup.ofField d fd).lengthRules = (FieldSetup.rules fd).1 := fun _ => rfl
  simp only [assemble, FormDefinition.fieldNames, List.map_map, Function.comp_def, rules, List.zip_map']

/-- The subscriptions are those of the fields whose dependencies and programs are in order. -/
theorem subscriptions_of_build (built : build d options = .ok f) :
    f.subscriptions = d.fields.filterMap fun fd => (FieldSetup.subscription? d fd).1 := by
  obtain ⟨-, rfl⟩ := of_build built
  have subscription : ∀ fd, (FieldSetup.ofField d fd).subscription = (FieldSetup.subscription? d fd).1 :=
    fun _ => rfl
  simp only [assemble, List.filterMap_map, Function.comp_def, subscription]

/-- A form has for each of its fields at most one list of length rules. -/
theorem nodup_lengthRules_of_build (built : build d options = .ok f) :
    (f.lengthRules.map (·.1)).Nodup := by
  have names : (d.fields.map fun fd => (fd.name, (FieldSetup.rules fd).1)).map (·.1) = d.fieldNames := by
    simp [FormDefinition.fieldNames]
  rw [lengthRules_of_build built]
  refine (List.Sublist.map _ List.filter_sublist).nodup ?_
  rw [names]
  exact (of_build built).1

/-- These are the lists that could be read and hold a rule. -/
theorem mem_lengthRules_of_build (built : build d options = .ok f) {name : String}
    {rules : List LengthRule} :
    (name, rules) ∈ f.lengthRules ↔
      rules ≠ [] ∧ ∃ fd ∈ d.fields, fd.name = name ∧ fd.lengthRules = .ok rules := by
  rw [lengthRules_of_build built, List.mem_filter, List.mem_map]
  constructor
  · rintro ⟨⟨fd, mem, same⟩, kept⟩
    cases same
    have nonempty : (FieldSetup.rules fd).1 ≠ [] := by simpa using kept
    refine ⟨nonempty, fd, mem, rfl, ?_⟩
    unfold FieldSetup.rules at nonempty ⊢
    split
    · assumption
    · rename_i failed
      rw [failed] at nonempty
      exact (nonempty rfl).elim
  · rintro ⟨nonempty, fd, mem, rfl, read⟩
    refine ⟨⟨fd, mem, ?_⟩, by simpa using nonempty⟩
    rw [FieldSetup.rules, read]

theorem validators_of_build (built : build d options = .ok f) : f.validators = d.formValidators := by
  obtain ⟨-, rfl⟩ := of_build built
  have validators : ∀ fd, (FieldSetup.ofField d fd).validators =
      (FieldSetup.compileValidators fd.name fd.validators).1 := fun _ => rfl
  simp only [assemble, FormDefinition.formValidators, List.flatMap_map, validators,
    FieldSetup.compileValidators_fst]

end Form

end Formulary
