import Formulary.Proofs.Accounting
import Formulary.Proofs.Propagation.Carrying
import Formulary.Proofs.Rule.Source

/-!
# Fields that copy others

A field copies another if its one rule sets it to the other's value whenever that changes. A form of such
fields comes to have just the rules `Subscription.copy` (`Form.mem_subscriptions_iff`), whatever the names
are as long as they can be written in a program, and the rules lead from a field to those that copy it
(`Form.leads_eq_copied`). `Form.setValue_copies` says what a change of one of them does.
-/

namespace Formulary

namespace FieldDefinition

/-- The field copies another: that is all its rules say. -/
structure Copies (f : FieldDefinition) (source : String) : Prop where
  dependencies : f.dependencies = some [source]
  programs : f.programs = some ["s " ++ f.name ++ " " ++ source]

theorem copies_iff {f : FieldDefinition} {source : String} :
    f.Copies source ↔ f.dependencies = some [source] ∧ f.programs = some ["s " ++ f.name ++ " " ++ source] :=
  ⟨fun h => ⟨h.dependencies, h.programs⟩, fun h => ⟨h.1, h.2⟩⟩

end FieldDefinition

namespace FormDefinition

/-- Every field has no rules or copies another, and no name has blanks or semicolons. -/
structure CopiesOnly (d : FormDefinition) : Prop where
  plain : ∀ name ∈ d.fieldNames, Text.Plain name
  rules : ∀ f ∈ d.fields,
    f.dependencies = none ∨ f.programs = none ∨ ∃ source ∈ d.fieldNames, f.Copies source

/-- The second field copies the first. -/
def Copied (d : FormDefinition) (source target : String) : Prop :=
  ∃ f ∈ d.fields, f.name = target ∧ f.Copies source

end FormDefinition

/-- The source of a rule that copies compiles to it, if the names have no blanks and no semicolons. -/
theorem Program.compile_copy {target source : String}
    (plain : ∀ name ∈ [target, source], name ≠ "" ∧ Text.Plain name) :
    compile ("s " ++ target ++ " " ++ source) = .ok ⟨[⟨"s", [target, source]⟩]⟩ := by
  have mnemonic : "s " = "s" ++ " " := rfl
  have written : text ⟨[⟨"s", [target, source]⟩]⟩ = "s" ++ " " ++ (target ++ " " ++ source) := rfl
  have same : "s " ++ target ++ " " ++ source = text ⟨[⟨"s", [target, source]⟩]⟩ := by
    rw [written, mnemonic]
    simp only [String.append_assoc]
  rw [same]
  apply compile_text
  · exact List.cons_ne_nil _ _
  · intro r mem
    cases List.mem_singleton.1 mem
    have letter : "s" ≠ "" ∧ Text.Plain "s" := by decide
    apply Row.legible_of_plain
    exact List.forall_mem_cons.2 ⟨letter, plain⟩

namespace Form

open Propagation

variable {d : FormDefinition} {options : RunOptions} {f g : Form}

/-- The subscriptions are the rules that copy. -/
theorem mem_subscriptions_iff (built : build d options = .ok f) (copies : d.CopiesOnly) {s : Subscription} :
    s ∈ f.subscriptions ↔
      ∃ fd ∈ d.fields, ∃ source ∈ d.fieldNames, fd.Copies source ∧ s = .copy fd.name source := by
  have legible : ∀ name ∈ d.fieldNames, name ≠ "" ∧ Text.Plain name := by
    intro name mem
    obtain ⟨fd, among, rfl⟩ := List.mem_map.1 mem
    exact ⟨(wellNamed_of_build built).named fd among, copies.plain _ mem⟩
  have subscribed : ∀ fd ∈ d.fields, ∀ source ∈ d.fieldNames, fd.Copies source →
      (FieldSetup.subscription? d fd).1 = some (.copy fd.name source) := by
    intro fd mem source declared copy
    have compiles : Program.compile ("s " ++ fd.name ++ " " ++ source) =
        .ok ⟨[⟨"s", [fd.name, source]⟩]⟩ := by
      apply Program.compile_copy
      intro name among
      rcases List.mem_pair.1 among with rfl | rfl
      · exact legible _ (List.mem_map_of_mem mem)
      · exact legible _ declared
    rw [FieldSetup.subscription?_of_declared copy.dependencies copy.programs]
    · simp [compiles, Except.toOption, Subscription.copy]
    · simpa using declared
    · simp [compiles, Except.toOption]
  rw [subscriptions_of_build built, List.mem_filterMap]
  constructor
  · rintro ⟨fd, mem, taken⟩
    obtain ⟨-, depends, sources, programs, -⟩ := FieldSetup.subscribed_of_subscription? taken
    rcases copies.rules fd mem with absent | absent | ⟨source, declared, copy⟩
    · rw [absent] at depends
      cases depends
    · rw [absent] at programs
      cases programs
    · rw [subscribed fd mem source declared copy] at taken
      exact ⟨fd, mem, source, declared, copy, (Option.some.inj taken).symm⟩
  · rintro ⟨fd, mem, source, declared, copy, rfl⟩
    exact ⟨fd, mem, subscribed fd mem source declared copy⟩

theorem copying_of_build (built : build d options = .ok f) (copies : d.CopiesOnly) :
    Copying d.fieldNames f.subscriptions where
  distinct := fields_nodup_of_build built
  rules := by
    intro s mem
    obtain ⟨fd, among, source, declared, -, rfl⟩ := (mem_subscriptions_iff built copies).1 mem
    exact ⟨fd.name, List.mem_map_of_mem among, source, declared, rfl⟩

/-- The rules lead from a field to those that copy it. -/
theorem leads_eq_copied (built : build d options = .ok f) (copies : d.CopiesOnly) :
    Leads f.subscriptions = d.Copied := by
  funext source target
  apply propext
  rw [(copying_of_build built copies).leads_iff, mem_subscriptions_iff built copies]
  constructor
  · rintro ⟨fd, mem, source', -, copy, same⟩
    cases same
    exact ⟨fd, mem, rfl, copy⟩
  · rintro ⟨fd, mem, rfl, copy⟩
    rcases copies.rules fd mem with absent | absent | ⟨source', declared, copy'⟩
    · cases absent.symm.trans copy.dependencies
    · cases absent.symm.trans copy.programs
    · cases copy'.dependencies.symm.trans copy.dependencies
      exact ⟨fd, mem, source, declared, copy, rfl⟩

theorem carried_change {name : String} {value : Value} {store : Store}
    (set : f.store.set? name value = some store) :
    Carried f.store.names f.subscriptions name value (f.change.enter store name value) where
  names := Store.names_of_set? set
  stacked := stacked_change.enter set List.not_mem_nil
  held := held_change set
  chained := .singleton name
  busy := by
    intro field mem
    rw [List.mem_singleton.1 mem]
    exact (held_change set).value
  written := by
    intro field w depth mem
    rw [change_events, List.mem_singleton] at mem
    cases mem
    exact (held_change set).value
  events := by
    intro e mem
    rw [change_events, List.mem_singleton] at mem
    rw [mem]
    exact .write ⟨.here, fun m _ => Nat.zero_le m⟩

/-- **Copies arrive everywhere, once.** Let every field have no rules or copy another, in chains, trees or
rings of any length. After a change of one of them, every field that copies it, be it over others, holds the
value, and every other field what it held. Each of the former is written once, as many writes deep as it is
far; no program fails; and if the field changed lies on a ring, the write that comes back to it is the one
that is suppressed. -/
theorem setValue_copies (built : build d options = .ok f) (kin : Kin f g) (copies : d.CopiesOnly)
    (one : 1 ≤ options.maxSteps) {name : String} (declared : name ∈ d.fieldNames) (value : Value) :
    ∃ g' j, g.setValue name value = .ok (g', j) ∧
      (∀ field, Relation.ReflTransGen d.Copied name field →
        g'.value? field = some value ∧
        ∃ n, Distance d.Copied name field n ∧
          j.toList.filter (·.writes field) = [.write field value n]) ∧
      (∀ field, ¬ Relation.ReflTransGen d.Copied name field →
        g'.value? field = g.value? field ∧ j.toList.filter (·.writes field) = []) ∧
      j.failures = [] ∧
      (Relation.TransGen d.Copied name name →
        j.toList.filter (·.isSuppressed) = [.suppressed name value]) ∧
      (¬ Relation.TransGen d.Copied name name → j.toList.filter (·.isSuppressed) = []) := by
  have names : g.store.names = d.fieldNames := kin.names.trans (names_of_build built)
  have copying : Copying g.store.names g.subscriptions := by
    rw [names, kin.subscriptions]
    exact copying_of_build built copies
  have leads : Leads g.subscriptions = d.Copied := by
    rw [kin.subscriptions]
    exact leads_eq_copied built copies
  have enough : 1 ≤ g.options.maxSteps := by
    obtain ⟨-, rfl⟩ := of_build built
    rw [kin.options]
    exact one
  obtain ⟨store, c, set, notified, result⟩ := setValue_course (names ▸ declared) value
  have steps := (steps_of_notifies notified).1
  have carried : Carried g.store.names g.subscriptions name value c :=
    steps.invariant (fun _ _ step => step.carried copying enough) (carried_change set)
  have confined : Confined g.subscriptions name g.store c :=
    steps.invariant (fun _ _ step => step.confined) (confined_change.enter .refl set)
  have balanced : ∀ source target, .copy target source ∈ g.subscriptions →
      surplus source target c = if name = target then 1 else 0 := by
    intro source target rule
    have course : Writes g.options g.subscriptions g.change name value .applied (c.leave name) :=
      .applied set List.not_mem_nil notified
    have restored := restores copying enough rule _ rfl (Nat.lt_succ_self _) (names ▸ declared) course
    have before : surplus source target g.change = 0 := rfl
    rwa [surplus_leave, before, Int.zero_add] at restored
  rw [← leads]
  refine ⟨_, _, result, ?_, ?_, carried.failures_eq_nil, ?_, ?_⟩
  · intro field reached
    obtain ⟨n, far, single⟩ := carried.filter_writes copying balanced reached
    have mem : .write field value n ∈ c.journal.toList :=
      (List.mem_filter.1 (single ▸ List.mem_singleton_self _)).1
    exact ⟨carried.written field value n mem, n, far, single⟩
  · intro field unreached
    refine ⟨confined.kept field unreached, ?_⟩
    rw [List.filter_eq_nil_iff]
    intro e mem writes
    cases carried.events e mem with
    | write =>
      cases eq_of_beq writes
      exact unreached (confined.written _ _ _ mem)
    | suppressed => cases writes
  · exact carried.filter_isSuppressed copying balanced
  · exact carried.filter_isSuppressed_eq_nil

/-- Three voices that copy one another in a ring, an echo of one of them, a voice that copies itself, and the
audience. -/
def choir : FormDefinition where
  fields :=
    [{ name := "alto", dependencies := some ["bass"], programs := some ["s alto bass"] },
     { name := "tenor", dependencies := some ["alto"], programs := some ["s tenor alto"] },
     { name := "bass", dependencies := some ["tenor"], programs := some ["s bass tenor"] },
     { name := "echo", dependencies := some ["tenor"], programs := some ["s echo tenor"] },
     { name := "hum", dependencies := some ["hum"], programs := some ["s hum hum"] },
     { name := "audience" }]

theorem choir_copies :
    build choir { maxSteps := 1 } = .ok (assemble choir { maxSteps := 1 }) ∧
      Kin (assemble choir { maxSteps := 1 }) (assemble choir { maxSteps := 1 }) ∧
      choir.CopiesOnly ∧ "alto" ∈ choir.fieldNames ∧
      ∃ g' j, (assemble choir { maxSteps := 1 }).setValue "alto" (.text "la") = .ok (g', j) ∧
        g'.value? "echo" = some (.text "la") ∧
        j.toList.filter (·.isSuppressed) = [.suppressed "alto" (.text "la")] := by
  have built : build choir { maxSteps := 1 } = .ok (assemble choir { maxSteps := 1 }) := by decide
  have copies : choir.CopiesOnly := by
    constructor
    · decide
    · simp [choir, FormDefinition.fieldNames, FieldDefinition.copies_iff]
  have tenor : choir.Copied "alto" "tenor" := by
    simp [FormDefinition.Copied, choir, FieldDefinition.copies_iff]
  have echo : choir.Copied "tenor" "echo" := by
    simp [FormDefinition.Copied, choir, FieldDefinition.copies_iff]
  have bass : choir.Copied "tenor" "bass" := by
    simp [FormDefinition.Copied, choir, FieldDefinition.copies_iff]
  have alto : choir.Copied "bass" "alto" := by
    simp [FormDefinition.Copied, choir, FieldDefinition.copies_iff]
  have declared : "alto" ∈ choir.fieldNames := by decide
  obtain ⟨g', j, result, reached, -, -, suppressed, -⟩ :=
    setValue_copies built (.refl _) copies (Nat.le_refl 1) declared (.text "la")
  have ring : Relation.TransGen choir.Copied "alto" "alto" :=
    ((Relation.TransGen.single tenor).tail bass).tail alto
  have heard := reached "echo" ((Relation.ReflTransGen.single tenor).tail echo)
  exact ⟨built, .refl _, copies, declared, g', j, result, heard.1, suppressed ring⟩

end Form

end Formulary
