import Formulary.Proofs.Propagation.Termination
import Formulary.Proofs.Reachable

/-!
# Notifications

A program that fails at its first row leaves one trace each time it is run, its failure, so its
failures count the notifications of its subscription. `balance` is the number of those failures less
the number of writes of the dependencies; a write restores it, however the writes it sets off nest,
fail or are suppressed (`Writes.balance`), and `Form.setValue_notifies_once` reads that off the
journal of a change.
-/

namespace Formulary

namespace Program

/-- The mnemonic of the first row is not in the instruction set. -/
def StartsUnknown (p : Program) : Prop :=
  ∃ row, p.rows.head? = some row ∧ row.opcode? = none

end Program

namespace JournalEntry

/-- The event is a failure of the program of a field with an index. -/
def failsAt (e : JournalEntry) (field : String) (program : Nat) : Bool :=
  match e with
  | .failure f p _ => f == field && p == program
  | _ => false

/-- The event is a write of one of the fields. -/
def writesAmong (e : JournalEntry) (fields : List String) : Bool :=
  match e with
  | .write field _ _ => fields.contains field
  | _ => false

end JournalEntry

namespace Propagation

variable {options : RunOptions} {subscriptions : List Subscription} {s : Subscription} {k : Nat}

/-- The failures of a program of the subscription, less the writes of its dependencies. -/
def balance (s : Subscription) (k : Nat) (c : Change) : Int :=
  c.journal.toList.countP (·.failsAt s.field k) - c.journal.toList.countP (·.writesAmong s.dependencies)

/-- What one event adds to the balance. -/
def weight (s : Subscription) (k : Nat) (e : JournalEntry) : Int :=
  (if e.failsAt s.field k then 1 else 0) - (if e.writesAmong s.dependencies then 1 else 0)

theorem balance_record {c : Change} {e : JournalEntry} :
    balance s k (c.record e) = balance s k c + weight s k e := by
  have fails := List.countP_singleton (p := fun e : JournalEntry => e.failsAt s.field k) (a := e)
  have writes := List.countP_singleton (p := fun e : JournalEntry => e.writesAmong s.dependencies) (a := e)
  simp only [balance, weight, record_events, List.countP_append, fails, writes]
  split <;> split <;> omega

theorem balance_push {c : Change} {target property : String} {value : Value} :
    balance s k (c.push target property value).2 = balance s k c := by
  rcases c.push_cases target property value with ⟨registry, -, pushed⟩ | ⟨-, pushed⟩
  · rw [pushed, balance_record]
    exact Int.add_zero _
  · rw [pushed, balance_record]
    exact Int.add_zero _

theorem balance_enter {c : Change} {store : Store} {name : String} {value : Value} :
    balance s k (c.enter store name value) = balance s k c - if s.dependsOn name then 1 else 0 := by
  have recorded : balance s k (c.enter store name value) =
      balance s k c + weight s k (.write name value c.inFlight.depth) := balance_record
  have weighed : weight s k (.write name value c.inFlight.depth) =
      0 - if s.dependsOn name then 1 else 0 := rfl
  rw [recorded, weighed]
  omega

theorem balance_leave {c : Change} {name : String} : balance s k (c.leave name) = balance s k c :=
  rfl

theorem balance_failure {c : Change} {field : String} {index : Nat} {e : RuleError} :
    balance s k (c.record (.failure field index e)) =
      balance s k c + if field = s.field ∧ index = k then 1 else 0 := by
  rw [balance_record]
  by_cases same : field = s.field ∧ index = k
  · simp [weight, JournalEntry.failsAt, JournalEntry.writesAmong, same]
  · have differs : (field == s.field && index == k) = false := by simpa using same
    simp [weight, JournalEntry.failsAt, JournalEntry.writesAmong, differs, same]

/-! ## A program that fails at its first row -/

theorem Executes.of_unknown {r : RunState} {row : Row} {c c' : Change} {f : Except RuleError Flow}
    (h : Executes options subscriptions r row c f c') (unknown : row.opcode? = none) :
    f = .error (.unknownOpcode r.row row.mnemonic) ∧ c' = c := by
  have fails : Machine.demand reader options.relation r.context c r.row row =
      .answer (.error (.unknownOpcode r.row row.mnemonic)) := by
    simp only [Machine.demand, unknown]
  cases h with
  | answer demands =>
    rw [fails] at demands
    cases demands
    exact ⟨rfl, rfl⟩
  | write demands => rw [fails] at demands; cases demands
  | push demands => rw [fails] at demands; cases demands

/-- A run of a program that starts with an unknown mnemonic fails, be it at the step limit, and leaves the
change as it was. -/
theorem Runs.of_startsUnknown {p : Program} {c c' : Change} {a : Except RuleError RunState}
    (h : Runs options subscriptions p { context := .propagation } c a c') (starts : p.StartsUnknown) :
    (∃ e, a = .error e) ∧ c' = c := by
  obtain ⟨row, first, unknown⟩ := starts
  have due : p.rows[0]? = some row := by rw [← List.head?_eq_getElem?, first]
  cases h with
  | left past => rw [due] at past; cases past
  | limit => exact ⟨⟨_, rfl⟩, rfl⟩
  | failed due' _ executed =>
    rw [due] at due'
    cases due'
    exact ⟨⟨_, rfl⟩, (executed.of_unknown unknown).2⟩
  | next due' _ executed =>
    rw [due] at due'
    cases due'
    cases (executed.of_unknown unknown).1

/-! ## Every write of a dependency is notified once -/

/-- Among the dependents of a field the subscription stands once if it depends on the field, and no
other is of its field. -/
theorem countP_dependents (distinct : (subscriptions.map (·.field)).Nodup) (mem : s ∈ subscriptions)
    (name : String) :
    (Subscription.dependents subscriptions name).countP (·.field == s.field) =
      if s.dependsOn name then 1 else 0 := by
  have once : subscriptions.count s = 1 :=
    List.count_eq_one_of_mem (List.Nodup.of_map _ distinct) mem
  have only : ∀ s' ∈ subscriptions,
      (s'.field == s.field && s'.dependsOn name) = (s' == s && s.dependsOn name) := by
    intro s' mem'
    by_cases equal : s' = s
    · subst equal
      simp
    · have differs : s'.field ≠ s.field :=
        fun same => equal (List.inj_on_of_nodup_map distinct mem' mem same)
      rw [beq_false_of_ne differs, beq_false_of_ne equal, Bool.false_and, Bool.false_and]
  rw [Subscription.dependents, List.countP_filter, List.countP_congr fun s' mem => by rw [only s' mem]]
  by_cases depends : s.dependsOn name = true
  · simp only [depends, Bool.and_true, if_true]
    exact once
  · simp only [depends, Bool.and_false, Bool.false_eq_true, if_false]
    exact congrFun List.countP_false subscriptions

/-- Among subscriptions of distinct fields there is one with a program that fails at its first
row. -/
structure Watched (subscriptions : List Subscription) (s : Subscription) (k : Nat) : Prop where
  distinct : (subscriptions.map (·.field)).Nodup
  mem : s ∈ subscriptions
  fails : ∃ p, s.programs[k]? = some p ∧ p.StartsUnknown

theorem Watched.eq_of_field (w : Watched subscriptions s k) {s' : Subscription}
    (mem : s' ∈ subscriptions) (same : s'.field = s.field) : s' = s :=
  List.inj_on_of_nodup_map w.distinct mem w.mem same

theorem Watched.lt_length (w : Watched subscriptions s k) : k < s.programs.length := by
  obtain ⟨p, found, -⟩ := w.fails
  exact (List.getElem?_eq_some_iff.1 found).1

/-- Whether the failure of the program is still to come, once the programs of a field before an index
have run. -/
def due (s : Subscription) (k : Nat) (field : String) (index : Nat) : Int :=
  if field = s.field ∧ index ≤ k then 1 else 0

theorem due_succ (field : String) (index : Nat) :
    due s k field index =
      (if field = s.field ∧ index = k then 1 else 0) + due s k field (index + 1) := by
  by_cases same : field = s.field
  · simp only [due, same, true_and]
    split <;> split <;> split <;> omega
  · simp [due, same]

mutual

/-- **A write restores the balance.** -/
theorem Writes.balance {c c' : Change} {name : String} {value : Value} {o : WriteOutcome}
    (h : Writes options subscriptions c name value o c') (w : Watched subscriptions s k) :
    balance s k c' = balance s k c := by
  match h with
  | .unknown _ => rfl
  | .suppressed _ _ =>
    rw [balance_record]
    exact Int.add_zero _
  | .applied _ _ notified =>
    have others := Notifies.balance notified w fun _ mem => (List.mem_filter.1 mem).1
    rw [balance_leave, others, balance_enter, countP_dependents w.distinct w.mem]
    split <;> simp
termination_by structural h

/-- Notifying subscriptions adds one failure for each of the field among them. -/
theorem Notifies.balance {c c' : Change} {ss : List Subscription}
    (h : Notifies options subscriptions ss c c') (w : Watched subscriptions s k)
    (among : ∀ s' ∈ ss, s' ∈ subscriptions) :
    balance s k c' = balance s k c + ss.countP (·.field == s.field) := by
  match h with
  | .nil => exact (Int.add_zero _).symm
  | .cons (s := s') first others =>
    have once := Responds.balance first w (among _ List.mem_cons_self) rfl rfl
    have rest := Notifies.balance others w fun s' mem => among s' (List.mem_cons_of_mem _ mem)
    rw [rest, once, List.countP_cons, due]
    by_cases same : s'.field = s.field
    · simp [same]
      omega
    · simp [same]
termination_by structural h

theorem Responds.balance {c c' : Change} {s' : Subscription} {field : String} {index : Nat}
    {ps : List Program} (h : Responds options subscriptions field index ps c c')
    (w : Watched subscriptions s k) (mem : s' ∈ subscriptions) (ofField : field = s'.field)
    (rest : s'.programs.drop index = ps) :
    balance s k c' = balance s k c + due s k field index := by
  match h with
  | .nil =>
    have past : s'.programs.length ≤ index := List.drop_eq_nil_iff.1 rest
    have nothing : due s k field index = 0 := by
      refine if_neg fun ⟨same, early⟩ => ?_
      have equal := w.eq_of_field mem (ofField.symm.trans same)
      have less := w.lt_length
      subst equal
      omega
    rw [nothing, Int.add_zero]
  | .finished ran others =>
    obtain ⟨found, next⟩ := drop_eq_cons rest
    have later := Responds.balance others w mem ofField next
    -- the program watched never finishes, so it is not the one that ran
    have other : ¬ (field = s.field ∧ index = k) := by
      rintro ⟨same, rfl⟩
      have equal := w.eq_of_field mem (ofField.symm.trans same)
      subst equal
      obtain ⟨p, watched, starts⟩ := w.fails
      rw [found] at watched
      cases watched
      obtain ⟨⟨e, failed⟩, -⟩ := ran.of_startsUnknown starts
      cases failed
    rw [later, Runs.balance ran w, due_succ field index, if_neg other, Int.zero_add]
  | .failed ran others =>
    obtain ⟨-, next⟩ := drop_eq_cons rest
    have later := Responds.balance others w mem ofField next
    rw [later, balance_failure, Runs.balance ran w, due_succ field index, Int.add_assoc]
termination_by structural h

theorem Runs.balance {p : Program} {r : RunState} {c c' : Change} {a : Except RuleError RunState}
    (h : Runs options subscriptions p r c a c') (w : Watched subscriptions s k) :
    balance s k c' = balance s k c := by
  match h with
  | .left _ => rfl
  | .limit _ _ => rfl
  | .failed _ _ executed => exact Executes.balance executed w
  | .next _ _ executed others => rw [Runs.balance others w, Executes.balance executed w]
termination_by structural h

theorem Executes.balance {r : RunState} {row : Row} {c c' : Change} {f : Except RuleError Flow}
    (h : Executes options subscriptions r row c f c') (w : Watched subscriptions s k) :
    balance s k c' = balance s k c := by
  match h with
  | .answer _ => rfl
  | .write _ written => exact Writes.balance written w
  | .push _ => exact balance_push
termination_by structural h

end

end Propagation

namespace Form

open Propagation

/-- **Every write of a dependency is notified exactly once.** Of a program whose first row has an
unknown mnemonic, so that every run of it fails before it does anything, the journal of a change
holds as many failures as it holds writes of fields its subscription depends on, the host's own write
among them. -/
theorem setValue_notifies_once {f : Form} (reachable : f.Reachable) {s : Subscription}
    (mem : s ∈ f.subscriptions) {k : Nat} {p : Program} (program : s.programs[k]? = some p)
    (unknown : p.StartsUnknown) {name : String} (declared : name ∈ f.store.names) (value : Value) :
    ∃ f' j, f.setValue name value = .ok (f', j) ∧
      j.toList.countP (·.failsAt s.field k) = j.toList.countP (·.writesAmong s.dependencies) := by
  obtain ⟨store, c, set, notified, result⟩ := setValue_course declared value
  have watched : Watched f.subscriptions s k := ⟨reachable.fields_nodup, mem, p, program, unknown⟩
  have course : Writes f.options f.subscriptions f.change name value .applied (c.leave name) :=
    .applied set List.not_mem_nil notified
  have balanced : balance s k c = 0 := course.balance watched
  refine ⟨_, _, result, ?_⟩
  unfold balance at balanced
  omega

/-- Two fields that copy each other, each after a program that is none; one names its dependency
twice. -/
def bells : FormDefinition where
  fields :=
    [{ name := "left", dependencies := some ["right", "right"],
       programs := some ["ring", "s left right"] },
     { name := "right", dependencies := some ["left"], programs := some ["ring right", "s right left"] }]

theorem bells_notifies_once :
    (assemble bells {}).Reachable ∧
      ⟨"left", ["right", "right"], [⟨[⟨"ring", []⟩]⟩, ⟨[⟨"s", ["left", "right"]⟩]⟩]⟩ ∈
        (assemble bells {}).subscriptions ∧
      (Program.mk [⟨"ring", []⟩]).StartsUnknown ∧
      "left" ∈ (assemble bells {}).store.names ∧
      ∃ f' j, (assemble bells {}).setValue "left" (.text "x") = .ok (f', j) ∧
        j.toList.countP (·.failsAt "left" 0) = j.toList.countP (·.writesAmong ["right", "right"]) := by
  have reachable : (assemble bells {}).Reachable := .built (show build bells {} = .ok _ by decide)
  have mem : ⟨"left", ["right", "right"], [⟨[⟨"ring", []⟩]⟩, ⟨[⟨"s", ["left", "right"]⟩]⟩]⟩ ∈
      (assemble bells {}).subscriptions := by decide +kernel
  have unknown : (Program.mk [⟨"ring", []⟩]).StartsUnknown := ⟨⟨"ring", []⟩, rfl, by decide⟩
  have declared : "left" ∈ (assemble bells {}).store.names := by decide
  exact ⟨reachable, mem, unknown, declared,
    setValue_notifies_once reachable mem rfl unknown declared (.text "x")⟩

end Form

end Formulary
