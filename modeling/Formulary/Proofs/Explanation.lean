import Formulary.Form.Validity
import Formulary.Proofs.Propagation.Termination
import Formulary.Proofs.Reachable
import Formulary.Proofs.Validator

/-!
# Errors and what explains them

Every error at run time is the step limit or the defect of a row, which the row shows given the names
of the declared fields alone. For a row that runs during a change this is because neither nested writes
nor pushes change which fields are declared, and because a change refuses a write only of a field that
is not (`Executes.defect`); a run passes that on (`Runs.mayFail`), and a step of the change into the
journal (`Step.explained`). A validator needs no such argument, as nothing changes while it runs.
-/

namespace Formulary

namespace Propagation

variable {options : RunOptions} {subscriptions : List Subscription} {names : List String}

theorem isSome_read (c : Change) : ∀ name ∈ c.store.names, (reader.read c name).isSome = true :=
  fun _ mem => Store.contains_iff.2 mem

/-- **A row that fails during a change has the defect its error names.** -/
theorem Executes.defect {r : RunState} {row : Row} {c c' : Change} {f : Except RuleError Flow}
    {e : RuleError} (h : Executes options subscriptions r row c f c') (failed : f = .error e) :
    Row.Defect r.context c.store.names r.row row e := by
  cases h with
  | answer demands =>
    subst failed
    exact Machine.defect_of_demand (isSome_read c) demands
  | @write _ _ _ _ target value outcome demands written =>
    -- a write comes to an end as applied, suppressed or unknown, and only the last fails the row
    obtain ⟨opcode, -, source, rest, operands, -⟩ := Machine.of_demand_write demands
    cases outcome with
    | applied => cases failed
    | suppressed => cases failed
    | refused => cases written
    | unknownField =>
      cases failed
      cases written with
      | unknown undeclared => exact .missingTarget opcode (by rw [operands]; rfl) undeclared
  | @push _ _ _ target property value demands =>
    rcases c.push_cases target property value with ⟨registry, -, pushed⟩ | ⟨-, pushed⟩
    · rw [pushed] at failed
      cases failed
    · rw [pushed] at failed
      cases failed

/-- A run fails at the step limit or because of a defect of its program. -/
theorem Runs.mayFail {p : Program} {r : RunState} {c c' : Change} {a : Except RuleError RunState}
    {e : RuleError} (h : Runs options subscriptions p r c a c') (failed : a = .error e) :
    p.MayFail options r.context c.store.names e := by
  match h with
  | .left _ => cases failed
  | .limit _ _ =>
    cases failed
    exact .inl rfl
  | .failed due _ executed =>
    cases failed
    exact .inr ⟨r.row, _, due, executed.defect rfl⟩
  | .next due _ executed others =>
    have rest := Runs.mayFail others failed
    rw [Machine.context_advance, executed.level.names] at rest
    exact rest
termination_by structural h

/-- The failure of a program of a field has an explanation: there is such a program, and it may fail
so. -/
def Accounted (options : RunOptions) (subscriptions : List Subscription) (names : List String)
    (field : String) (k : Nat) (e : RuleError) : Prop :=
  ∃ s ∈ subscriptions, s.field = field ∧ ∃ p, s.programs[k]? = some p ∧
    p.MayFail options .propagation names e

/-- The failures recorded so far have explanations, by the names of the fields that are and stay
declared. -/
structure Explained (options : RunOptions) (subscriptions : List Subscription) (names : List String)
    (c : Change) : Prop where
  declared : c.store.names = names
  failures : ∀ field k e, .failure field k e ∈ c.journal.toList →
    Accounted options subscriptions names field k e

theorem Explained.record {c : Change} {event : JournalEntry}
    (h : Explained options subscriptions names c)
    (cause : ∀ field k e, event = .failure field k e →
      Accounted options subscriptions names field k e) :
    Explained options subscriptions names (c.record event) where
  declared := h.declared
  failures := by
    intro field k e mem
    rw [record_events, List.mem_append, List.mem_singleton] at mem
    rcases mem with old | new
    · exact h.failures field k e old
    · exact cause field k e new.symm

theorem Explained.enter {c : Change} {name : String} {value : Value} {store : Store}
    (h : Explained options subscriptions names c) (set : c.store.set? name value = some store) :
    Explained options subscriptions names (c.enter store name value) :=
  Explained.record ⟨(Store.names_of_set? set).trans h.declared, h.failures⟩ nofun

theorem Step.explained {a b : Change} (step : Step options subscriptions a b)
    (h : Explained options subscriptions names a) : Explained options subscriptions names b := by
  cases step with
  | enter _ set => exact h.enter set
  | leave => exact ⟨h.declared, h.failures⟩
  | suppress => exact h.record nofun
  | @push target property value =>
    rcases a.push_cases target property value with ⟨registry, -, pushed⟩ | ⟨-, pushed⟩
    · rw [pushed]
      exact Explained.record ⟨h.declared, h.failures⟩ nofun
    · rw [pushed]
      exact h.record nofun
  | fail notified has ran =>
    refine h.record fun field k e same => ?_
    cases same
    have mayFail := ran.mayFail rfl
    rw [← ran.level.names, h.declared] at mayFail
    exact ⟨_, notified.mem, rfl, _, has, mayFail⟩

end Propagation

namespace Form

open Propagation

variable {f : Form} {name : String}

/-- A change of a declared field has a journal, and the failures in it have explanations by the names
of the fields of the form. -/
theorem setValue_accounted (declared : name ∈ f.store.names) (value : Value) :
    ∃ f' j, f.setValue name value = .ok (f', j) ∧
      ∀ field k e, .failure field k e ∈ j.toList →
        Accounted f.options f.subscriptions f.store.names field k e := by
  obtain ⟨store, c, set, notified, result⟩ := setValue_course declared value
  have start : Explained f.options f.subscriptions f.store.names f.change :=
    ⟨rfl, fun _ _ _ mem => absurd mem List.not_mem_nil⟩
  have whole : Explained f.options f.subscriptions f.store.names c :=
    Steps.invariant (steps_of_notifies notified).1 (fun _ _ step => step.explained) (start.enter set)
  exact ⟨_, _, result, whole.failures⟩

theorem mem_faults {fault : ValidatorFault} (mem : fault ∈ f.validate.faults) :
    ∃ v ∈ f.validators, v.field = fault.field ∧ v.name = fault.validator ∧
      v.check f.options f.store = .error fault.error := by
  obtain ⟨v, among, made⟩ := List.mem_filterMap.1 mem
  cases failed : v.check f.options f.store with
  | ok failure => simp [failed] at made
  | error e =>
    simp only [failed, Option.some.injEq] at made
    subst made
    exact ⟨v, among, rfl, rfl, failed⟩

/-- **Errors at run time are explained by the rules.** The error of a failure in the journal of a change
is the step limit, or a row of the very program that failed has the defect the error names; the error
of a fault of a validator likewise. No error says that the host is read-only or that a row is empty,
and a program without defective rows fails by the step limit alone. -/
theorem errors_explained (reachable : f.Reachable) :
    (∀ name ∈ f.store.names, ∀ value, ∃ f' j, f.setValue name value = .ok (f', j) ∧
      ∀ field k e, .failure field k e ∈ j.toList →
        (∀ i, e ≠ .readOnly i ∧ e ≠ .emptyRow i) ∧
        ∃ s ∈ f.subscriptions, s.field = field ∧ (∀ s' ∈ f.subscriptions, s'.field = field → s' = s) ∧
          ∃ p, s.programs[k]? = some p ∧ p.MayFail f.options .propagation f.store.names e ∧
            (p.Flawless .propagation f.store.names → e = .stepLimit f.options.maxSteps)) ∧
    ∀ fault ∈ f.validate.faults,
      (∀ i, fault.error ≠ .readOnly i ∧ fault.error ≠ .emptyRow i) ∧
      ∃ v ∈ f.validators, v.field = fault.field ∧ v.name = fault.validator ∧
        v.check f.options f.store = .error fault.error ∧
        v.program.MayFail f.options .validation f.store.names fault.error ∧
        (v.program.Flawless .validation f.store.names →
          fault.error = .stepLimit f.options.maxSteps) := by
  constructor
  · intro name declared value
    obtain ⟨f', j, result, accounted⟩ := setValue_accounted declared value
    refine ⟨f', j, result, fun field k e mem => ?_⟩
    obtain ⟨s, among, rfl, p, found, mayFail⟩ := accounted field k e mem
    refine ⟨fun i => ⟨mayFail.ne_readOnly i, mayFail.ne_emptyRow i⟩, s, among, rfl, ?_, ?_⟩
    · exact fun s' among' same => reachable.eq_of_field among among' same
    · exact ⟨p, found, mayFail, mayFail.eq_stepLimit⟩
  · intro fault mem
    obtain ⟨v, among, ofField, named, failed⟩ := mem_faults mem
    have mayFail := FormValidator.mayFail_of_check failed
    exact ⟨fun i => ⟨mayFail.ne_readOnly i, mayFail.ne_emptyRow i⟩, v, among, ofField, named, failed,
      mayFail, mayFail.eq_stepLimit⟩

/-- A lamp with three programs, of which the first fails at an unknown mnemonic, the second at a name
that is no field and the third at the step limit, and with a validator whose jump leads nowhere. -/
def lamps : FormDefinition where
  fields :=
    [{ name := "switch" },
     { name := "lamp", dependencies := some ["switch"],
       programs := some ["s lamp switch;ring", "s lamp gone", "jrgt 0 0 0"],
       validators := [⟨"dim", "too dim", "jrgt lamp 0 half"⟩] }]

theorem lamps_errors_explained :
    (assemble lamps ⟨5, .greaterOrEqual⟩).Reachable ∧
      (∃ f' j, (assemble lamps ⟨5, .greaterOrEqual⟩).setValue "switch" (.text "on") = .ok (f', j) ∧
        .failure "lamp" 0 (.unknownOpcode 1 "ring") ∈ j.toList ∧
        ∃ s ∈ (assemble lamps ⟨5, .greaterOrEqual⟩).subscriptions, s.field = "lamp" ∧
          ∃ p, s.programs[0]? = some p ∧
            p.MayFail ⟨5, .greaterOrEqual⟩ .propagation ["switch", "lamp"] (.unknownOpcode 1 "ring")) ∧
      ⟨"lamp", "dim", .invalidOffset 0 "half"⟩ ∈ (assemble lamps ⟨5, .greaterOrEqual⟩).validate.faults ∧
      ∃ v ∈ (assemble lamps ⟨5, .greaterOrEqual⟩).validators, v.name = "dim" ∧
        v.program.MayFail ⟨5, .greaterOrEqual⟩ .validation ["switch", "lamp"]
          (.invalidOffset 0 "half") := by
  have reachable : (assemble lamps ⟨5, .greaterOrEqual⟩).Reachable :=
    .built (show build lamps ⟨5, .greaterOrEqual⟩ = .ok _ by decide)
  have changed : (assemble lamps ⟨5, .greaterOrEqual⟩).setValue "switch" (.text "on") =
      .ok ({ assemble lamps ⟨5, .greaterOrEqual⟩ with
        store := ⟨[("switch", .text "on"), ("lamp", .text "on")]⟩ },
        ⟨#[.write "switch" (.text "on") 0, .write "lamp" (.text "on") 1,
          .failure "lamp" 0 (.unknownOpcode 1 "ring"), .failure "lamp" 1 (.missingField 0 "gone"),
          .failure "lamp" 2 (.stepLimit 5)]⟩) := by
    decide +kernel
  have faulty : ⟨"lamp", "dim", .invalidOffset 0 "half"⟩ ∈
      (assemble lamps ⟨5, .greaterOrEqual⟩).validate.faults := by
    decide +kernel
  obtain ⟨ofFailures, ofFaults⟩ := errors_explained reachable
  refine ⟨reachable, ⟨_, _, changed, by simp [Journal.toList], ?_⟩, faulty, ?_⟩
  · obtain ⟨f', j, result, explained⟩ := ofFailures "switch" (by decide) (.text "on")
    rw [changed] at result
    cases result
    obtain ⟨-, s, mem, named, -, p, found, mayFail, -⟩ :=
      explained "lamp" 0 (.unknownOpcode 1 "ring") (by simp [Journal.toList])
    exact ⟨s, mem, named, p, found, mayFail⟩
  · obtain ⟨-, v, mem, -, named, -, mayFail, -⟩ := ofFaults _ faulty
    exact ⟨v, mem, named, mayFail⟩

end Form

end Formulary
