import Formulary.Proofs.Setup

/-!
# What a form leaves out of its definition

Building fails for the names of the fields alone, and then with the error of the first field whose name is
missing or taken (`NameOffence`). Whatever else a field declares is either taken into the form or left out
with one issue that says so: `FieldDefinition.omissions` lists those issues from the definition, without
building anything, and `Form.build_accounts` says that a form has them, in the order of declaration, and all
the rest.
-/

namespace Formulary

/-- The fields are named, and no two have the same name. -/
structure WellNamed (fields : List FieldDefinition) : Prop where
  named : ∀ f ∈ fields, f.name ≠ ""
  distinct : (fields.map (·.name)).Nodup

/-- What is wrong with the name of a field, given the names before it. -/
inductive NameOffence (names : List String) (f : FieldDefinition) : FormError → Prop where
  | missing (nameless : f.name = "") : NameOffence names f (.definition .nameRequired)
  | taken (named : f.name ≠ "") (again : f.name ∈ names) : NameOffence names f (.duplicateField f.name)

namespace FieldDefinition

variable (d : FormDefinition) (f : FieldDefinition)

/-- The issue with a list of length rules that cannot be read. -/
def ruleOmissions : List SetupIssue :=
  match f.rules.map LengthRule.parseList with
  | some (.error reason) => [.definition (.invalidRules f.name reason)]
  | _ => []

/-- The issue with each form validator that does not compile. -/
def validatorOmissions : List SetupIssue :=
  f.validators.filterMap fun v =>
    match Program.compile v.code with
    | .ok _ => none
    | .error e => some (.validator f.name v.name e)

/-- The issue with each program that does not compile. -/
def programOmissions : List SetupIssue :=
  (f.programs.getD []).zipIdx.filterMap fun (source, index) =>
    match Program.compile source with
    | .ok _ => none
    | .error e => some (.program f.name index e)

/-- What is wrong with the dependencies: they come without programs or programs without them, or one of
them is no field. -/
def dependencyError? : Option DefinitionError :=
  if f.dependencies.isSome = f.programs.isSome then
    ((f.dependencies.getD []).find? (· ∉ d.fieldNames)).map (.unknownDependency f.name)
  else some (.unpairedDependencies f.name)

/-- One issue for each thing the field declares that is left out of the form. Where the dependencies are in
error, the programs are left out with them. -/
def omissions : List SetupIssue :=
  f.ruleOmissions ++ f.validatorOmissions ++
    match f.dependencyError? d with
    | some error => [.definition error]
    | none => f.programOmissions

/-- The field depends on others, all of them fields of the form, and all its programs compile. -/
def subscribes : Bool :=
  match f.dependencies, f.programs with
  | some dependencies, some sources =>
    dependencies.all (d.fieldNames.contains ·) &&
      sources.all fun source => (Program.compile source).toOption.isSome
  | _, _ => false

/-- The subscription is of the field, with its dependencies and all its programs. -/
structure Subscribed (s : Subscription) : Prop where
  field : s.field = f.name
  dependencies : f.dependencies = some s.dependencies
  programs : ∃ sources, f.programs = some sources ∧
    List.Forall₂ (fun source p => Program.compile source = .ok p) sources s.programs

/-- All that the field declares can be taken into the form. -/
structure Sound : Prop where
  rules : ∀ encoded, f.rules = some encoded → ∃ rules, LengthRule.parseList encoded = .ok rules
  validators : ∀ v ∈ f.validators, ∃ p, Program.compile v.code = .ok p
  paired : f.dependencies.isSome = f.programs.isSome
  declared : ∀ dependencies, f.dependencies = some dependencies →
    ∀ name ∈ dependencies, name ∈ d.fieldNames
  programs : ∀ sources, f.programs = some sources → ∀ source ∈ sources, ∃ p, Program.compile source = .ok p

end FieldDefinition

/-- What is taken of a list, and what it is taken for, stand side by side. -/
theorem forall₂_filterMap {α β : Type} {R : α → β → Prop} {taken : α → Bool} {g : α → Option β}
    (isSome : ∀ a, (g a).isSome = taken a) (related : ∀ a b, g a = some b → R a b) (as : List α) :
    List.Forall₂ R (as.filter taken) (as.filterMap g) := by
  induction as with
  | nil => exact .nil
  | cons a as ih =>
    cases image : g a with
    | none =>
      have skipped : taken a = false := by rw [← isSome, image]; rfl
      simpa [image, skipped] using ih
    | some b =>
      have kept : taken a = true := by rw [← isSome, image]; rfl
      simpa [image, kept] using ⟨related a b image, ih⟩

theorem Program.compile_of_toOption {source : String} {p : Program}
    (compiled : (Program.compile source).toOption = some p) : Program.compile source = .ok p := by
  cases ofSource : Program.compile source <;> simp_all [Except.toOption]

theorem WellNamed.nil : WellNamed [] :=
  ⟨List.forall_mem_nil _, List.nodup_nil⟩

theorem NameOffence.mono {names names' : List String} {f : FieldDefinition} {e : FormError}
    (h : NameOffence names f e) (more : names ⊆ names') : NameOffence names' f e := by
  cases h with
  | missing nameless => exact .missing nameless
  | taken named again => exact .taken named (more again)

namespace FieldDefinition

variable {d : FormDefinition} {f : FieldDefinition}

/-- Nothing is wrong with the dependencies if they come with programs and are fields. -/
theorem dependencyError?_eq_none_iff :
    f.dependencyError? d = none ↔
      f.dependencies.isSome = f.programs.isSome ∧
        ∀ dependencies, f.dependencies = some dependencies → ∀ name ∈ dependencies, name ∈ d.fieldNames := by
  unfold dependencyError?
  cases f.dependencies <;> cases f.programs <;> simp

theorem subscribes_iff :
    f.subscribes d = true ↔
      ∃ dependencies sources, f.dependencies = some dependencies ∧ f.programs = some sources ∧
        (∀ name ∈ dependencies, name ∈ d.fieldNames) ∧
        ∀ source ∈ sources, (Program.compile source).toOption.isSome = true := by
  unfold subscribes
  cases f.dependencies with
  | none => simp
  | some dependencies => cases f.programs <;> simp

end FieldDefinition

namespace FormDefinition

variable {d : FormDefinition} {fs : List FieldDefinition} {seen : List String}

/-- The check of names fails at the first field that offends. -/
theorem offence_of_checkNamesFrom {e : DefinitionError} (failed : checkNamesFrom seen fs = .error e) :
    ∃ before f after, fs = before ++ f :: after ∧ WellNamed before ∧ (∀ g ∈ before, g.name ∉ seen) ∧
      NameOffence (before.map (·.name) ++ seen) f (.ofDefinition e) := by
  induction fs generalizing seen with
  | nil => cases failed
  | cons f fs ih =>
    unfold checkNamesFrom at failed
    split at failed
    · rename_i nameless
      cases failed
      exact ⟨[], f, fs, rfl, .nil, List.forall_mem_nil _, .missing (by simpa using nameless)⟩
    · rename_i nonempty
      have named : f.name ≠ "" := by simpa using nonempty
      split at failed
      · rename_i again
        cases failed
        exact ⟨[], f, fs, rfl, .nil, List.forall_mem_nil _, .taken named (by simpa using again)⟩
      · rename_i unlisted
        have fresh : f.name ∉ seen := by simpa using unlisted
        obtain ⟨before, g, after, rfl, wellNamed, unseen, offence⟩ := ih failed
        have apart : f.name ∉ before.map (·.name) := by
          intro again
          obtain ⟨h, mem, same⟩ := List.mem_map.1 again
          exact unseen h mem (same ▸ List.mem_cons_self)
        refine ⟨f :: before, g, after, rfl, ⟨?_, ?_⟩, ?_, ?_⟩
        · exact List.forall_mem_cons.2 ⟨named, wellNamed.named⟩
        · exact List.nodup_cons.2 ⟨apart, wellNamed.distinct⟩
        · exact List.forall_mem_cons.2
            ⟨fresh, fun h mem old => unseen h mem (List.mem_cons_of_mem _ old)⟩
        · exact offence.mono List.perm_middle.subset

theorem named_of_checkNamesFrom (ok : checkNamesFrom seen fs = .ok ()) : ∀ f ∈ fs, f.name ≠ "" := by
  induction fs generalizing seen with
  | nil => exact nofun
  | cons f fs ih =>
    unfold checkNamesFrom at ok
    split at ok
    · cases ok
    · rename_i named
      split at ok
      · cases ok
      · exact List.forall_mem_cons.2 ⟨by simpa using named, ih ok⟩

theorem checkNamesFrom_of_wellNamed (wellNamed : WellNamed fs) (fresh : ∀ f ∈ fs, f.name ∉ seen) :
    checkNamesFrom seen fs = .ok () := by
  induction fs generalizing seen with
  | nil => rfl
  | cons f fs ih =>
    obtain ⟨apart, distinct⟩ := List.nodup_cons.1 wellNamed.distinct
    have named : f.name ≠ "" := wellNamed.named f List.mem_cons_self
    have unseen : f.name ∉ seen := fresh f List.mem_cons_self
    have others : WellNamed fs := ⟨fun g mem => wellNamed.named g (List.mem_cons_of_mem _ mem), distinct⟩
    have rest : checkNamesFrom (f.name :: seen) fs = .ok () := by
      refine ih others fun g mem again => ?_
      rcases List.mem_cons.1 again with same | old
      · exact apart (List.mem_map.2 ⟨g, mem, same⟩)
      · exact fresh g (List.mem_cons_of_mem _ mem) old
    simp [checkNamesFrom, named, unseen, rest]

theorem isNone_field? {name : String} : (d.field? name).isNone = decide (name ∉ d.fieldNames) := by
  rw [Bool.eq_iff_iff, decide_eq_true_iff, Option.isNone_iff_eq_none, field?, List.find?_eq_none]
  simp [fieldNames]

/-- The check of the dependencies of a field finds what is wrong with them. -/
theorem checkDependencies_eq (f : FieldDefinition) :
    d.checkDependencies f = (f.dependencyError? d).elim (.ok ()) .error := by
  unfold checkDependencies FieldDefinition.dependencyError?
  cases f.dependencies with
  | none => cases f.programs <;> simp
  | some dependencies =>
    cases f.programs with
    | none => simp
    | some sources =>
      simp only [isNone_field?, Option.isSome_some, if_true, Option.getD_some]
      cases dependencies.find? (· ∉ d.fieldNames) <;> rfl

end FormDefinition

namespace FieldSetup

variable {d : FormDefinition} {f : FieldDefinition} {field : String}

theorem rules_snd : (rules f).2 = f.ruleOmissions := by
  unfold rules FieldDefinition.lengthRules FieldDefinition.ruleOmissions
  cases f.rules with
  | none => rfl
  | some encoded => cases read : LengthRule.parseList encoded <;> simp [read]

theorem compileValidators_snd {ds : List ValidatorDefinition} :
    (compileValidators field ds).2 = ds.filterMap fun v =>
      match Program.compile v.code with
      | .ok _ => none
      | .error e => some (.validator field v.name e) := by
  induction ds with
  | nil => rfl
  | cons d ds ih =>
    unfold compileValidators FormValidator.compile
    cases compiled : Program.compile d.code <;> simp [compiled, ih, Except.map]

theorem compilePrograms_snd {index : Nat} {sources : List String} :
    (compilePrograms field index sources).2 = (sources.zipIdx index).filterMap fun (source, index) =>
      match Program.compile source with
      | .ok _ => none
      | .error e => some (.program field index e) := by
  induction sources generalizing index with
  | nil => rfl
  | cons source sources ih =>
    unfold compilePrograms
    cases compiled : Program.compile source <;> simp [compiled, ih]

theorem subscription?_of_error {error : DefinitionError} (wrong : f.dependencyError? d = some error) :
    subscription? d f = (none, [.definition error]) := by
  unfold subscription?
  rw [FormDefinition.checkDependencies_eq, wrong]
  rfl

theorem subscription?_of_none (sound : f.dependencyError? d = none) (independent : f.dependencies = none) :
    subscription? d f = (none, []) := by
  unfold subscription?
  rw [FormDefinition.checkDependencies_eq, sound, independent]
  rfl

theorem subscription?_of_some {dependencies sources : List String} (sound : f.dependencyError? d = none)
    (depends : f.dependencies = some dependencies) (programs : f.programs = some sources) :
    subscription? d f =
      (if (compilePrograms f.name 0 sources).2.isEmpty then
        some ⟨f.name, dependencies, (compilePrograms f.name 0 sources).1⟩ else none,
        (compilePrograms f.name 0 sources).2) := by
  unfold subscription?
  rw [FormDefinition.checkDependencies_eq, sound, depends, programs]
  rfl

/-- A subscription is left out for its dependencies or for its programs. -/
theorem subscription?_snd :
    (subscription? d f).2 =
      match f.dependencyError? d with
      | some error => [.definition error]
      | none => f.programOmissions := by
  cases wrong : f.dependencyError? d with
  | some error => rw [subscription?_of_error wrong]
  | none =>
    have paired := (FieldDefinition.dependencyError?_eq_none_iff.1 wrong).1
    cases depends : f.dependencies with
    | none =>
      have absent : f.programs = none := by simpa [depends] using paired.symm
      rw [subscription?_of_none wrong depends]
      simp [FieldDefinition.programOmissions, absent]
    | some dependencies =>
      obtain ⟨sources, programs⟩ := Option.isSome_iff_exists.1 (by rw [← paired, depends]; rfl)
      rw [subscription?_of_some wrong depends programs]
      simp [FieldDefinition.programOmissions, programs, compilePrograms_snd]

theorem issues_ofField : (ofField d f).issues = f.omissions d := by
  have issues : (ofField d f).issues =
      (rules f).2 ++ (compileValidators f.name f.validators).2 ++ (subscription? d f).2 := rfl
  rw [issues, rules_snd, compileValidators_snd, subscription?_snd]
  rfl

/-- A field whose dependencies are declared and whose programs all compile has a subscription. -/
theorem subscription?_of_declared {dependencies sources : List String}
    (depends : f.dependencies = some dependencies) (programs : f.programs = some sources)
    (declared : ∀ name ∈ dependencies, name ∈ d.fieldNames)
    (compile : ∀ source ∈ sources, (Program.compile source).toOption.isSome = true) :
    (subscription? d f).1 =
      some ⟨f.name, dependencies, sources.filterMap fun source => (Program.compile source).toOption⟩ := by
  have right : f.dependencyError? d = none := by
    refine FieldDefinition.dependencyError?_eq_none_iff.2 ⟨by rw [depends, programs]; rfl, ?_⟩
    intro others given
    rw [depends] at given
    cases given
    exact declared
  rw [subscription?_of_some right depends programs, if_pos (compilePrograms_snd_isEmpty.2 compile),
    compilePrograms_fst]

/-- No other field has one. -/
theorem isSome_subscription? : (subscription? d f).1.isSome = f.subscribes d := by
  rw [Bool.eq_iff_iff, FieldDefinition.subscribes_iff]
  constructor
  · intro taken
    cases wrong : f.dependencyError? d with
    | some error => simp [subscription?_of_error wrong] at taken
    | none =>
      obtain ⟨paired, declared⟩ := FieldDefinition.dependencyError?_eq_none_iff.1 wrong
      cases depends : f.dependencies with
      | none => simp [subscription?_of_none wrong depends] at taken
      | some dependencies =>
        obtain ⟨sources, programs⟩ := Option.isSome_iff_exists.1 (by rw [← paired, depends]; rfl)
        refine ⟨dependencies, sources, rfl, programs, declared _ depends, ?_⟩
        rw [subscription?_of_some wrong depends programs] at taken
        by_contra failed
        rw [← @compilePrograms_snd_isEmpty f.name 0 sources] at failed
        simp [failed] at taken
  · rintro ⟨dependencies, sources, depends, programs, declared, compile⟩
    rw [subscription?_of_declared depends programs declared compile]
    rfl

/-- The subscription of a field has all its programs. -/
theorem subscribed_of_subscription? {s : Subscription} (taken : (subscription? d f).1 = some s) :
    f.Subscribed s := by
  have subscribes : f.subscribes d = true := by rw [← isSome_subscription?, taken]; rfl
  obtain ⟨dependencies, sources, depends, programs, declared, compile⟩ :=
    FieldDefinition.subscribes_iff.1 subscribes
  rw [subscription?_of_declared depends programs declared compile] at taken
  cases taken
  have every : sources.filter (fun source => (Program.compile source).toOption.isSome) = sources :=
    List.filter_eq_self.2 compile
  have beside := forall₂_filterMap (R := fun source p => Program.compile source = .ok p) (fun _ => rfl)
    (fun source p => Program.compile_of_toOption) sources
  rw [every] at beside
  exact ⟨rfl, depends, sources, programs, beside⟩

end FieldSetup

namespace FieldDefinition

variable {d : FormDefinition} {f : FieldDefinition}

theorem ruleOmissions_eq_nil_iff :
    f.ruleOmissions = [] ↔
      ∀ encoded, f.rules = some encoded → ∃ rules, LengthRule.parseList encoded = .ok rules := by
  unfold ruleOmissions
  cases f.rules with
  | none => simp
  | some encoded => cases read : LengthRule.parseList encoded <;> simp [read]

theorem validatorOmissions_eq_nil_iff :
    f.validatorOmissions = [] ↔ ∀ v ∈ f.validators, ∃ p, Program.compile v.code = .ok p := by
  unfold validatorOmissions
  rw [List.filterMap_eq_nil_iff]
  refine forall₂_congr fun v _ => ?_
  cases Program.compile v.code <;> simp

theorem programOmissions_eq_nil_iff :
    f.programOmissions = [] ↔
      ∀ sources, f.programs = some sources → ∀ source ∈ sources, ∃ p, Program.compile source = .ok p := by
  have compiled : ∀ source, (Program.compile source).toOption.isSome = true ↔
      ∃ p, Program.compile source = .ok p := by
    intro source
    cases Program.compile source <;> simp [Except.toOption]
  have issues : f.programOmissions = (FieldSetup.compilePrograms f.name 0 (f.programs.getD [])).2 :=
    FieldSetup.compilePrograms_snd.symm
  rw [issues, ← List.isEmpty_iff, FieldSetup.compilePrograms_snd_isEmpty]
  simp only [compiled]
  cases f.programs <;> simp

/-- Nothing is left out exactly if all that the field declares can be taken. -/
theorem omissions_eq_nil_iff : f.omissions d = [] ↔ f.Sound d := by
  unfold omissions
  rw [List.append_eq_nil_iff, List.append_eq_nil_iff, ruleOmissions_eq_nil_iff,
    validatorOmissions_eq_nil_iff]
  constructor
  · rintro ⟨⟨rules, validators⟩, rest⟩
    cases wrong : f.dependencyError? d with
    | some error => simp [wrong] at rest
    | none =>
      obtain ⟨paired, declared⟩ := dependencyError?_eq_none_iff.1 wrong
      exact ⟨rules, validators, paired, declared, programOmissions_eq_nil_iff.1 (by simpa [wrong] using rest)⟩
  · rintro ⟨rules, validators, paired, declared, programs⟩
    have right := dependencyError?_eq_none_iff.2 ⟨paired, declared⟩
    rw [right]
    exact ⟨⟨rules, validators⟩, programOmissions_eq_nil_iff.2 programs⟩

end FieldDefinition

namespace Form

variable {d : FormDefinition} {options : RunOptions}

/-- A form holds all that its definition declares, or an issue in its place. -/
structure Accounts (d : FormDefinition) (options : RunOptions) (f : Form) : Prop where
  name : f.name = d.name
  options : f.options = options
  /-- No component is mounted, and the form's own owner alone has been handed out. -/
  components : (f.owner, f.registry) = Registry.empty.newOwner
  values : f.values = d.fields.map fun fd => (fd.name, fd.value)
  lengthRules : f.lengthRules =
    (d.fields.filterMap fun fd => fd.lengthRules.toOption.map (fd.name, ·)).filter (!·.2.isEmpty)
  validators : f.validators = d.formValidators
  subscriptions : List.Forall₂ FieldDefinition.Subscribed (d.fields.filter (·.subscribes d)) f.subscriptions
  issues : f.issues = d.fields.flatMap (·.omissions d)
  /-- There is no issue exactly if nothing was left out. -/
  complete : f.issues = [] ↔ ∀ fd ∈ d.fields, fd.Sound d

theorem issues_of_build {f : Form} (built : build d options = .ok f) :
    f.issues = d.fields.flatMap (·.omissions d) := by
  obtain ⟨-, rfl⟩ := of_build built
  simp only [assemble, List.flatMap_map, FieldSetup.issues_ofField]

theorem build_of_wellNamed (wellNamed : WellNamed d.fields) (options : RunOptions) :
    build d options = .ok (assemble d options) := by
  have checked : d.checkNames = .ok () :=
    FormDefinition.checkNamesFrom_of_wellNamed wellNamed fun _ _ => List.not_mem_nil
  rw [build, checked]

theorem wellNamed_of_build {f : Form} (built : build d options = .ok f) : WellNamed d.fields := by
  refine ⟨?_, (of_build built).1⟩
  unfold build at built
  split at built
  · rename_i named
    exact FormDefinition.named_of_checkNamesFrom named
  · cases built

theorem offence_of_build {e : FormError} (failed : build d options = .error e) :
    ∃ before fd after, d.fields = before ++ fd :: after ∧ WellNamed before ∧
      NameOffence (before.map (·.name)) fd e := by
  unfold build at failed
  split at failed
  · cases failed
  · rename_i error wrong
    cases failed
    obtain ⟨before, fd, after, split, wellNamed, -, offence⟩ :=
      FormDefinition.offence_of_checkNamesFrom wrong
    exact ⟨before, fd, after, split, wellNamed, by simpa using offence⟩

theorem lengthRules_eq {f : Form} (built : build d options = .ok f) :
    f.lengthRules =
      (d.fields.filterMap fun fd => fd.lengthRules.toOption.map (fd.name, ·)).filter (!·.2.isEmpty) := by
  rw [lengthRules_of_build built]
  induction d.fields with
  | nil => rfl
  | cons fd fds ih =>
    have first : (FieldSetup.rules fd).1 = fd.lengthRules.toOption.getD [] := by
      unfold FieldSetup.rules
      cases fd.lengthRules <;> rfl
    rw [List.map_cons, List.filter_cons, first, ih, List.filterMap_cons]
    cases fd.lengthRules.toOption <;> simp [List.filter_cons]

/-- **Building accounts for everything in a definition.** It fails exactly if a field has no name or the name
of an earlier one, with the error of the first such field. Otherwise the form holds all that the definition
declares, in the order of declaration, or one issue in its place; and but for the options themselves the
form is the same under all options, since no program is run. -/
theorem build_accounts (d : FormDefinition) (options : RunOptions) :
    ((∃ e, build d options = .error e) ↔ ¬ WellNamed d.fields) ∧
      (∀ e, build d options = .error e →
        ∃ before fd after, d.fields = before ++ fd :: after ∧ WellNamed before ∧
          NameOffence (before.map (·.name)) fd e) ∧
      (WellNamed d.fields → ∃ f, build d options = .ok f ∧ Accounts d options f ∧
        ∀ options', build d options' = .ok { f with options := options' }) := by
  refine ⟨⟨?_, fun offends => ?_⟩, fun e failed => offence_of_build failed, fun wellNamed => ?_⟩
  · rintro ⟨e, failed⟩ wellNamed
    rw [build_of_wellNamed wellNamed] at failed
    cases failed
  · cases built : build d options with
    | error e => exact ⟨e, rfl⟩
    | ok f => exact (offends (wellNamed_of_build built)).elim
  · have built := build_of_wellNamed wellNamed options
    refine ⟨_, built, ?_, fun options' => build_of_wellNamed wellNamed options'⟩
    have issues := issues_of_build built
    refine ⟨rfl, rfl, rfl, fields_of_build built, lengthRules_eq built, validators_of_build built, ?_, issues,
      ?_⟩
    · rw [subscriptions_of_build built]
      exact forall₂_filterMap (fun _ => FieldSetup.isSome_subscription?)
        (fun _ _ => FieldSetup.subscribed_of_subscription?) d.fields
    · rw [issues, List.flatMap_eq_nil_iff]
      exact forall₂_congr fun fd _ => FieldDefinition.omissions_eq_nil_iff

/-- A scrapbook of which much has to be left out: rules nobody can read, a validator without code, programs
with empty rows, dependencies that are no fields or have no programs. -/
def scrapbook : FormDefinition where
  name := "scrapbook"
  fields :=
    [{ name := "cover", value := .text "blue", rules := some "[between][1]",
       validators := [⟨"blank", "nothing to see", ""⟩, ⟨"dated", "no date", "setres date"⟩] },
     { name := "page", dependencies := some ["cover"],
       programs := some ["s page cover", ";s page 1", "s page 2; "] },
     { name := "index", dependencies := some ["page", "chapter"], programs := some [";"] },
     { name := "margin", dependencies := some ["page"] },
     { name := "title", dependencies := some ["cover"], programs := some ["s title cover"] }]

/-- The scrapbook with a second cover, after which a field has no name. -/
def rebound : FormDefinition where
  fields := scrapbook.fields ++ [{ name := "cover" }, { name := "" }]

theorem scrapbook_accounts :
    (WellNamed scrapbook.fields ∧
      ∃ f, build scrapbook {} = .ok f ∧ Accounts scrapbook {} f ∧
        (∀ options', build scrapbook options' = .ok { f with options := options' }) ∧
        f.issues =
          [.definition (.invalidRules "cover" (.unknownRule "between")),
            .validator "cover" "blank" (.emptyRow 0),
            .program "page" 1 (.emptyRow 0), .program "page" 2 (.emptyRow 1),
            .definition (.unknownDependency "index" "chapter"),
            .definition (.unpairedDependencies "margin")]) ∧
      build rebound {} = .error (.duplicateField "cover") ∧
      ∃ before fd after, rebound.fields = before ++ fd :: after ∧ WellNamed before ∧
        NameOffence (before.map (·.name)) fd (.duplicateField "cover") := by
  have wellNamed : WellNamed scrapbook.fields := ⟨by decide, by decide⟩
  have failed : build rebound {} = .error (.duplicateField "cover") := by decide
  obtain ⟨f, built, accounts, inert⟩ := (build_accounts scrapbook {}).2.2 wellNamed
  refine ⟨⟨wellNamed, f, built, accounts, inert, ?_⟩, failed, (build_accounts rebound {}).2.1 _ failed⟩
  rw [accounts.issues]
  decide +kernel

end Form

end Formulary
