import Formulary.Definition.File
import Formulary.Proofs.Value

/-!
# Definitions saved and loaded

A record of which only the given members are written is read member by member, absent where one is left out
(`record?_given`). What is left out of a definition is what reading fills in there, so the document of a form
denotes it (`ofJson?_toJson`). If the numbers in it are finite that document is a plain one (`plain_toJson`), so
its text denotes the form too wherever plain documents are read as they are written (`parse_toJson`).
-/

namespace Formulary

namespace Json

/-- The members of a record that are given, in the order of the names. -/
def given (names : List String) (options : List (Option Json)) : List (String × Json) :=
  (names.zip options).flatMap fun m => optionalMember m.1 m.2

variable {name : String} {names : List String} {option : Option Json} {options : List (Option Json)}
  {before members : List (String × Json)} {m : String × Json}

theorem given_nil : given [] [] = [] := rfl

theorem given_cons :
    given (name :: names) (option :: options) = optionalMember name option ++ given names options := rfl

theorem fst_of_mem_optionalMember (mem : m ∈ optionalMember name option) : m.1 = name := by
  cases option with
  | none => cases mem
  | some doc =>
    obtain rfl := List.mem_singleton.1 mem
    rfl

theorem fst_of_mem_given (mem : m ∈ given names options) : m.1 ∈ names := by
  obtain ⟨⟨name, option⟩, among, here⟩ := List.mem_flatMap.1 mem
  rw [fst_of_mem_optionalMember here]
  exact (List.of_mem_zip among).1

theorem filter_eq_nil (other : ∀ m ∈ members, m.1 ≠ name) : members.filter (·.1 == name) = [] := by
  rw [List.filter_eq_nil_iff]
  intro m mem
  simpa using other m mem

/-- A member is found among others if it is given, and not found otherwise. -/
theorem single?_append (front : ∀ m ∈ before, m.1 ≠ name) (behind : ∀ m ∈ members, m.1 ≠ name) :
    DocumentView.single? name (before ++ (optionalMember name option ++ members)) = some option := by
  rw [DocumentView.single?, List.filter_append, List.filter_append, filter_eq_nil front, filter_eq_nil behind]
  cases option <;> simp [optionalMember]

/-- The members in front of a record do not matter if their names are others. -/
theorem mapM_single?_given (distinct : names.Nodup) (matching : names.length = options.length)
    (front : ∀ m ∈ before, m.1 ∉ names) :
    names.mapM (DocumentView.single? · (before ++ given names options)) = some options := by
  induction names generalizing options before with
  | nil =>
    rw [List.length_eq_zero_iff.1 matching.symm]
    rfl
  | cons name names ih =>
    obtain ⟨option, options, rfl⟩ := List.exists_cons_of_length_eq_add_one matching.symm
    obtain ⟨fresh, distinct⟩ := List.nodup_cons.1 distinct
    have here : DocumentView.single? name (before ++ given (name :: names) (option :: options)) = some option := by
      refine single?_append (fun m mem same => ?_) (fun m mem same => ?_)
      · exact front m mem (same ▸ List.mem_cons_self)
      · exact fresh (same ▸ fst_of_mem_given mem)
    have ahead : ∀ m ∈ before ++ optionalMember name option, m.1 ∉ names := by
      intro m mem later
      rcases List.mem_append.1 mem with mem | mem
      · exact front m mem (List.mem_cons_of_mem _ later)
      · exact fresh (fst_of_mem_optionalMember mem ▸ later)
    have later := ih distinct (Nat.succ.inj matching) ahead
    rw [List.append_assoc, ← given_cons] at later
    rw [List.mapM_cons, here, later]
    rfl

/-- **The record of the given members is read as them**, and the others as absent. -/
theorem record?_given (distinct : names.Nodup) (matching : names.length = options.length) :
    view.record? names (.object (given names options)) = some options :=
  @mapM_single?_given names options [] distinct matching nofun

/-! ## What is left out -/

theorem optionalMember_ite {absent : Prop} [Decidable absent] {doc : Json} :
    optionalMember name (if absent then none else some doc) = if absent then [] else [(name, doc)] := by
  split <;> rfl

variable {α : Type} {read : Json → Option α} {write : α → Json}

/-- A list written entry by entry is read entry by entry. -/
theorem listOf_map (inverse : ∀ x, read (write x) = some x) (xs : List α) :
    view.listOf read (.array (xs.map write)) = some xs := by
  have pointwise : read ∘ write = fun x => pure (id x) := funext inverse
  change (xs.map write).mapM read = some xs
  rw [List.mapM_map, pointwise, List.mapM_pure, List.map_id]
  rfl

theorem listOf_texts (items : List String) : view.listOf view.text? (texts items) = some items :=
  @listOf_map _ view.text? .text (fun _ => rfl) items

/-- An option that is left out if it is absent is read as it is. -/
theorem optional_map (inverse : ∀ x, read (write x) = some x) (present : ∀ x, (write x).isNull = false)
    (o : Option α) : view.optional read (o.map write) = some o := by
  cases o with
  | none => rfl
  | some x =>
    change (if (write x).isNull then some none else (read (write x)).map some) = some (some x)
    rw [present, inverse]
    rfl

/-- What is left out if it is the default is read as it is. -/
theorem withDefault_ite {x default : α} {absent : Prop} [Decidable absent] {doc : Json}
    (inverse : read doc = some x) (same : absent → x = default) :
    DocumentView.withDefault default read (if absent then none else some doc) = some x := by
  split
  · rename_i left
    rw [same left]
    rfl
  · exact inverse

/-! ## What is written -/

/-- The document that may be left out is a plain one if it is given. -/
def PlainOption (option : Option Json) : Prop :=
  ∀ doc, option = some doc → Plain doc

theorem plainOption_some {doc : Json} (plain : Plain doc) : PlainOption (some doc) := by
  rintro _ ⟨⟩
  exact plain

theorem plainOption_ite {absent : Prop} [Decidable absent] {doc : Json} (plain : Plain doc) :
    PlainOption (if absent then none else some doc) := by
  split
  · exact nofun
  · exact plainOption_some plain

theorem plainOption_map {o : Option α} (plain : ∀ x, Plain (write x)) : PlainOption (o.map write) := by
  cases o with
  | none => exact nofun
  | some x => exact plainOption_some (plain x)

theorem plain_given (all : ∀ option ∈ options, PlainOption option) : Plain (.object (given names options)) := by
  refine .object fun m mem => ?_
  obtain ⟨⟨name, option⟩, among, here⟩ := List.mem_flatMap.1 mem
  cases option with
  | none => cases here
  | some doc =>
    obtain rfl := List.mem_singleton.1 here
    exact all _ (List.of_mem_zip among).2 doc rfl

theorem plain_array {xs : List α} (plain : ∀ x ∈ xs, Plain (write x)) : Plain (.array (xs.map write)) :=
  .array (List.forall_mem_map.2 plain)

theorem plain_texts (items : List String) : Plain (texts items) :=
  plain_array fun _ _ => .text

end Json

/-! ## Definitions -/

namespace ValidatorDefinition

variable (v : ValidatorDefinition)

theorem toJson_eq : v.toJson = .object (Json.given ["name", "errorMessage", "code"]
    [some (.text v.name), some (.text v.message), some (.text v.code)]) := rfl

theorem validator?_toJson : Json.view.validator? v.toJson = some v := by
  rw [DocumentView.validator?, toJson_eq, Json.record?_given (by decide) rfl]
  rfl

theorem plain_toJson : Json.Plain v.toJson := by
  rw [toJson_eq]
  apply Json.plain_given
  simp only [List.forall_mem_cons, List.not_mem_nil]
  exact ⟨Json.plainOption_some .text, Json.plainOption_some .text, Json.plainOption_some .text, nofun⟩

end ValidatorDefinition

namespace FieldDefinition

/-- The members of a field, absent where they are left out. -/
def members (f : FieldDefinition) : List (Option Json) :=
  [some (.text f.name), if f.value = .null then none else some f.value.toJson, f.rules.map .text,
    if f.validators.isEmpty then none else some (.array (f.validators.map ValidatorDefinition.toJson)),
    f.dependencies.map Json.texts, f.programs.map Json.texts]

variable (f : FieldDefinition)

theorem toJson_eq : f.toJson = .object (Json.given
    ["name", "value", "validators", "formValidators", "dependsOn", "depsLogic"] f.members) := by
  simp only [toJson, members, Json.given_cons, Json.given_nil, Json.optionalMember_ite,
    List.append_assoc, List.append_nil]
  rfl

theorem field?_toJson : Json.view.field? f.toJson = some f := by
  have value : DocumentView.withDefault .null Json.view.value?
      (if f.value = .null then none else some f.value.toJson) = some f.value :=
    Json.withDefault_ite (Value.ofJson?_eq_some_iff.2 rfl) id
  have rules : Json.view.optional Json.view.text? (f.rules.map .text) = some f.rules :=
    @Json.optional_map _ Json.view.text? .text (fun _ => rfl) (fun _ => rfl) f.rules
  have validators : DocumentView.withDefault [] (Json.view.listOf Json.view.validator?)
      (if f.validators.isEmpty then none
        else some (.array (f.validators.map ValidatorDefinition.toJson))) = some f.validators :=
    Json.withDefault_ite (Json.listOf_map ValidatorDefinition.validator?_toJson _) List.isEmpty_iff.1
  have dependencies : Json.view.optional (Json.view.listOf Json.view.text?) (f.dependencies.map Json.texts) =
      some f.dependencies :=
    Json.optional_map Json.listOf_texts (fun _ => rfl) _
  have programs : Json.view.optional (Json.view.listOf Json.view.text?) (f.programs.map Json.texts) =
      some f.programs :=
    Json.optional_map Json.listOf_texts (fun _ => rfl) _
  rw [DocumentView.field?, toJson_eq, Json.record?_given (by decide) rfl]
  simp only [members, Option.bind_eq_bind, Option.bind_some, DocumentView.required]
  rw [value, rules, validators, dependencies, programs]
  rfl

theorem plain_toJson (finite : f.value.Finite) : Json.Plain f.toJson := by
  rw [toJson_eq]
  apply Json.plain_given
  simp only [members, List.forall_mem_cons, List.not_mem_nil]
  exact ⟨Json.plainOption_some .text, Json.plainOption_ite (Value.plain_toJson finite),
    Json.plainOption_map fun _ => .text,
    Json.plainOption_ite (Json.plain_array fun v _ => v.plain_toJson),
    Json.plainOption_map Json.plain_texts, Json.plainOption_map Json.plain_texts, nofun⟩

end FieldDefinition

namespace FormDefinition

variable {d : FormDefinition}

theorem toJson_eq : d.toJson = .object (Json.given ["name", "fields"]
    [if d.name.isEmpty then none else some (.text d.name),
      some (.array (d.fields.map FieldDefinition.toJson))]) := by
  simp only [toJson, Json.given_cons, Json.given_nil, Json.optionalMember_ite, List.append_nil]
  rfl

/-- **The document of a form denotes it.** -/
theorem ofJson?_toJson : ofJson? d.toJson = some d := by
  have name : DocumentView.withDefault "" Json.view.text?
      (if d.name.isEmpty then none else some (.text d.name)) = some d.name :=
    Json.withDefault_ite rfl String.isEmpty_iff.1
  have fields : Json.view.listOf Json.view.field? (.array (d.fields.map FieldDefinition.toJson)) =
      some d.fields :=
    Json.listOf_map FieldDefinition.field?_toJson _
  rw [ofJson?, DocumentView.form?, toJson_eq, Json.record?_given (by decide) rfl]
  simp only [Option.bind_eq_bind, Option.bind_some]
  rw [name, DocumentView.withDefault, fields]
  rfl

theorem plain_toJson (finite : ∀ f ∈ d.fields, f.value.Finite) : Json.Plain d.toJson := by
  rw [toJson_eq]
  apply Json.plain_given
  simp only [List.forall_mem_cons, List.not_mem_nil]
  exact ⟨Json.plainOption_ite .text,
    Json.plainOption_some (Json.plain_array fun f mem => f.plain_toJson (finite f mem)), nofun⟩

/-- **A form survives being saved and loaded**, if the numbers in it are finite, wherever texts and finite numbers
and what is made of them are read as they are written. -/
theorem parse_toJson {read : Json.Reader} {write : Json → String}
    (kept : ∀ doc, Json.Plain doc → read (write doc).toList = some doc)
    (finite : ∀ f ∈ d.fields, f.value.Finite) : parseJson? read (write d.toJson) = some d := by
  rw [parseJson?, kept d.toJson (plain_toJson finite), Option.bind_some]
  exact ofJson?_toJson

/-- A form in which what can be left out is absent, empty and given. -/
def sparse : FormDefinition where
  fields := [
    { name := "", value := .number (.finite true .zero), rules := some "", dependencies := some [] },
    { name := "note", value := .text "\t\"", validators := [⟨"short", "", "LOAD_VALUE"⟩], programs := some [""] }]

/-- It is saved on one line or over several, and loaded by the program's own reader. -/
theorem parse_toJson_sparse :
    parse? .json (Json.compact sparse.toJson) = some sparse ∧ parse? .json (Json.pretty sparse.toJson) = some sparse := by
  have finite : ∀ f ∈ sparse.fields, f.value.Finite := by
    intro f mem x same
    simp only [sparse, List.mem_cons, List.not_mem_nil, or_false] at mem
    rcases mem with rfl | rfl
    · cases same
      rfl
    · cases same
  exact ⟨parse_toJson (fun _ => Json.read?_compact) finite, parse_toJson (fun _ => Json.read?_pretty) finite⟩

end FormDefinition

end Formulary
