import Formulary.Form.Propagation
import Formulary.Proofs.Rule.Loop
import Formulary.Proofs.Rule.Operand
import Formulary.Proofs.Store

/-!
# The course of a change

The recursion of a change as it is, without a bound: a write notifies the dependents of its field,
these run their programs, and a row of a program may write again. `Writes` and the relations below
it hold of what comes to an end, since a derivation is finite; nothing in them limits how deep the
writes nest or how often a run jumps backwards, only the step limit is tested before each row as the
machine does it.

A course is determined by where it starts (`Writes.unique`), and it ends with the fields in flight
that were in flight before (`Writes.level`). That every write has one is shown in
`Formulary.Proofs.Propagation.Termination`.
-/

namespace Formulary

namespace Change

/-- The change once a field is in flight and holds its value and the write is recorded. -/
def enter (c : Change) (store : Store) (name : String) (value : Value) : Change :=
  { c with store, inFlight := ⟨name :: c.inFlight.names⟩ }.record (.write name value c.inFlight.depth)

/-- The change once a field is not in flight any more. -/
def leave (c : Change) (name : String) : Change :=
  { c with inFlight := c.inFlight.leave name }

/-- A push is delivered and recorded, or that its target has no binding is. -/
theorem push_cases (c : Change) (target property : String) (value : Value) :
    (∃ registry, c.registry.push? target property value = some registry ∧
      c.push target property value =
        (.delivered, { c with registry }.record (.push target property value))) ∨
    (c.registry.push? target property value = none ∧
      c.push target property value = (.noBinding, c.record (.noBinding target property))) := by
  cases h : c.registry.push? target property value with
  | some registry => exact .inl ⟨registry, rfl, by rw [push, h]⟩
  | none => exact .inr ⟨rfl, by rw [push, h]⟩

end Change

namespace Propagation

/-- A host that answers reads from a change. -/
def reader : Host Change :=
  Host.readOnly Change.read

/-- The same fields are declared and in flight. -/
structure Level (c c' : Change) : Prop where
  inFlight : c'.inFlight = c.inFlight
  names : c'.store.names = c.store.names

theorem Level.refl (c : Change) : Level c c :=
  ⟨rfl, rfl⟩

theorem Level.trans {c c' c'' : Change} (h : Level c c') (h' : Level c' c'') : Level c c'' :=
  ⟨h'.inFlight.trans h.inFlight, h'.names.trans h.names⟩

theorem Level.record (c : Change) (e : JournalEntry) : Level c (c.record e) :=
  ⟨rfl, rfl⟩

theorem Level.push (c : Change) (target property : String) (value : Value) :
    Level c (c.push target property value).2 := by
  rcases c.push_cases target property value with ⟨registry, -, pushed⟩ | ⟨-, pushed⟩
  · rw [pushed]
    exact ⟨rfl, rfl⟩
  · rw [pushed]
    exact .record c _

theorem Level.leave {c c' : Change} {name : String} {value : Value} {store : Store}
    (set : c.store.set? name value = some store) (h : Level (c.enter store name value) c') :
    Level c (c'.leave name) where
  inFlight := by
    rw [Change.leave, h.inFlight]
    simp [Change.enter, Change.record, InFlight.leave]
  names := h.names.trans (Store.names_of_set? set)

mutual

/-- Writing a field comes to an end, with an answer. -/
inductive Writes (options : RunOptions) (subscriptions : List Subscription) :
    Change → String → Value → WriteOutcome → Change → Prop where
  | unknown {c name value} (undeclared : name ∉ c.store.names) :
      Writes options subscriptions c name value .unknownField c
  | suppressed {c name value} (declared : name ∈ c.store.names) (busy : name ∈ c.inFlight.names) :
      Writes options subscriptions c name value .suppressed (c.record (.suppressed name value))
  | applied {c c' name value store} (set : c.store.set? name value = some store)
      (free : name ∉ c.inFlight.names)
      (notified : Notifies options subscriptions (Subscription.dependents subscriptions name)
        (c.enter store name value) c') :
      Writes options subscriptions c name value .applied (c'.leave name)

/-- Notifying subscriptions one after another comes to an end. -/
inductive Notifies (options : RunOptions) (subscriptions : List Subscription) :
    List Subscription → Change → Change → Prop where
  | nil {c} : Notifies options subscriptions [] c c
  | cons {c c' c'' s rest} (first : Responds options subscriptions s.field 0 s.programs c c')
      (others : Notifies options subscriptions rest c' c'') :
      Notifies options subscriptions (s :: rest) c c''

/-- Running the programs of a subscription in order, the first of which has the given index, comes
to an end. -/
inductive Responds (options : RunOptions) (subscriptions : List Subscription) :
    String → Nat → List Program → Change → Change → Prop where
  | nil {c field index} : Responds options subscriptions field index [] c c
  | finished {c c' c'' field index p ps r}
      (ran : Runs options subscriptions p { context := .propagation } c (.ok r) c')
      (others : Responds options subscriptions field (index + 1) ps c' c'') :
      Responds options subscriptions field index (p :: ps) c c''
  | failed {c c' c'' field index p ps e}
      (ran : Runs options subscriptions p { context := .propagation } c (.error e) c')
      (others : Responds options subscriptions field (index + 1) ps
        (c'.record (.failure field index e)) c'') :
      Responds options subscriptions field index (p :: ps) c c''

/-- Executing rows until control leaves the program or a row fails comes to an end. -/
inductive Runs (options : RunOptions) (subscriptions : List Subscription) :
    Program → RunState → Change → Except RuleError RunState → Change → Prop where
  | left {p r c} (past : p.rows[r.row]? = none) : Runs options subscriptions p r c (.ok r) c
  | limit {p r c row} (due : p.rows[r.row]? = some row) (spent : options.maxSteps ≤ r.steps) :
      Runs options subscriptions p r c (.error (.stepLimit options.maxSteps)) c
  | failed {p r c c' row e} (due : p.rows[r.row]? = some row) (left : r.steps < options.maxSteps)
      (executed : Executes options subscriptions r row c (.error e) c') :
      Runs options subscriptions p r c (.error e) c'
  | next {p r c c' c'' row flow answer} (due : p.rows[r.row]? = some row)
      (left : r.steps < options.maxSteps)
      (executed : Executes options subscriptions r row c (.ok flow) c')
      (others : Runs options subscriptions p (Machine.advance p.length r flow) c' answer c'') :
      Runs options subscriptions p r c answer c''

/-- Executing one row comes to an end. -/
inductive Executes (options : RunOptions) (subscriptions : List Subscription) :
    RunState → Row → Change → Except RuleError Flow → Change → Prop where
  | answer {r row c flow}
      (demands : Machine.demand reader options.relation r.context c r.row row = .answer flow) :
      Executes options subscriptions r row c flow c
  | write {r row c c' target value outcome}
      (demands : Machine.demand reader options.relation r.context c r.row row = .write target value)
      (written : Writes options subscriptions c target value outcome c') :
      Executes options subscriptions r row c (Machine.afterWrite r.row target outcome) c'
  | push {r row c target property value}
      (demands : Machine.demand reader options.relation r.context c r.row row =
        .push target property value) :
      Executes options subscriptions r row c
        (Machine.afterPush r.row (c.push target property value).1) (c.push target property value).2

end

variable {options : RunOptions} {subscriptions : List Subscription}

section

variable {c : Change} {name : String} {value : Value} {store : Store} {room : Nat}

theorem write_of_undeclared (h : name ∉ c.store.names) :
    write options subscriptions (room + 1) c name value = (.unknownField, c) := by
  simp only [write, Store.set?_of_not_mem h]

theorem write_of_busy (h : name ∈ c.store.names) (busy : name ∈ c.inFlight.names) :
    write options subscriptions (room + 1) c name value =
      (.suppressed, c.record (.suppressed name value)) := by
  simp [write, Store.set?_of_mem h, InFlight.enter?, InFlight.contains, busy]

theorem write_of_free (set : c.store.set? name value = some store) (free : name ∉ c.inFlight.names) :
    write options subscriptions (room + 1) c name value =
      (.applied, (notify options (host (write options subscriptions room))
        (Subscription.dependents subscriptions name) (c.enter store name value)).leave name) := by
  simp [write, set, InFlight.enter?, InFlight.contains, free, Change.enter, Change.leave]

end

theorem demand_host {write : Change → String → Value → WriteOutcome × Change} {relation : Relation}
    {context : Context} {c : Change} {index : Nat} {row : Row} :
    Machine.demand (host write) relation context c index row =
      Machine.demand reader relation context c index row :=
  Machine.demand_congr fun _ _ => rfl

/-- A run starts with all the steps of the limit. -/
theorem run_eq_loop {h : Host Change} {p : Program} {c : Change} :
    Machine.run h options p { context := .propagation } c =
      Machine.loop h options p (options.maxSteps - 0) { context := .propagation } c :=
  rfl

/-! ## The course is what is computed

Given room for all the writes that nest in it, `Propagation.write` and the functions it calls end
where the course of the change ends. -/

mutual

theorem Writes.computed {c c' : Change} {name : String} {value : Value} {o : WriteOutcome}
    (h : Writes options subscriptions c name value o c') :
    ∃ n, ∀ room, n ≤ room → write options subscriptions room c name value = (o, c') := by
  match h with
  | .unknown undeclared =>
    refine ⟨1, fun room enough => ?_⟩
    obtain ⟨room, rfl⟩ := Nat.exists_eq_add_of_le' enough
    exact write_of_undeclared undeclared
  | .suppressed declared busy =>
    refine ⟨1, fun room enough => ?_⟩
    obtain ⟨room, rfl⟩ := Nat.exists_eq_add_of_le' enough
    exact write_of_busy declared busy
  | .applied set free notified =>
    -- the write itself takes one unit of room, what nests in it the rest
    obtain ⟨n, below⟩ := Notifies.computed notified
    refine ⟨n + 1, fun room enough => ?_⟩
    obtain ⟨room, rfl⟩ := Nat.exists_eq_add_of_le' (Nat.le_of_add_left_le enough)
    rw [write_of_free set free, below room (by omega)]
termination_by structural h

theorem Notifies.computed {c c' : Change} {ss : List Subscription}
    (h : Notifies options subscriptions ss c c') :
    ∃ n, ∀ room, n ≤ room → notify options (host (write options subscriptions room)) ss c = c' := by
  match h with
  | .nil => exact ⟨0, fun _ _ => rfl⟩
  | .cons first others =>
    obtain ⟨n, ofFirst⟩ := Responds.computed first
    obtain ⟨m, ofOthers⟩ := Notifies.computed others
    refine ⟨max n m, fun room enough => ?_⟩
    rw [notify, ofFirst room (by omega), ofOthers room (by omega)]
termination_by structural h

theorem Responds.computed {c c' : Change} {field : String} {index : Nat} {ps : List Program}
    (h : Responds options subscriptions field index ps c c') :
    ∃ n, ∀ room, n ≤ room →
      runPrograms options (host (write options subscriptions room)) field index ps c = c' := by
  match h with
  | .nil => exact ⟨0, fun _ _ => rfl⟩
  | .finished ran others =>
    obtain ⟨n, ofFirst⟩ := Runs.computed ran
    obtain ⟨m, ofOthers⟩ := Responds.computed others
    refine ⟨max n m, fun room enough => ?_⟩
    rw [runPrograms, runProgram, run_eq_loop, ofFirst room (by omega), ofOthers room (by omega)]
  | .failed ran others =>
    obtain ⟨n, ofFirst⟩ := Runs.computed ran
    obtain ⟨m, ofOthers⟩ := Responds.computed others
    refine ⟨max n m, fun room enough => ?_⟩
    rw [runPrograms, runProgram, run_eq_loop, ofFirst room (by omega), ofOthers room (by omega)]
termination_by structural h

theorem Runs.computed {p : Program} {r : RunState} {c c' : Change} {a : Except RuleError RunState}
    (h : Runs options subscriptions p r c a c') :
    ∃ n, ∀ room, n ≤ room →
      Machine.loop (host (write options subscriptions room)) options p (options.maxSteps - r.steps) r c =
        (a, c') := by
  match h with
  | .left past => exact ⟨0, fun _ _ => Machine.loop_of_left past⟩
  | .limit due spent =>
    refine ⟨0, fun _ _ => ?_⟩
    rw [Nat.sub_eq_zero_of_le spent, Machine.loop_of_limit due]
  | .failed due left executed =>
    obtain ⟨n, ofRow⟩ := Executes.computed executed
    refine ⟨n, fun room enough => ?_⟩
    rw [show options.maxSteps - r.steps = options.maxSteps - (r.steps + 1) + 1 by omega,
      Machine.loop_of_failed due (ofRow room enough)]
  | .next due left executed others =>
    obtain ⟨n, ofRow⟩ := Executes.computed executed
    obtain ⟨m, ofOthers⟩ := Runs.computed others
    refine ⟨max n m, fun room enough => ?_⟩
    have rest := ofOthers room (by omega)
    rw [Machine.steps_advance] at rest
    rw [show options.maxSteps - r.steps = options.maxSteps - (r.steps + 1) + 1 by omega,
      Machine.loop_of_next due (ofRow room (by omega)), rest]
termination_by structural h

theorem Executes.computed {r : RunState} {row : Row} {c c' : Change} {f : Except RuleError Flow}
    (h : Executes options subscriptions r row c f c') :
    ∃ n, ∀ room, n ≤ room →
      Machine.execute (host (write options subscriptions room)) options.relation r.context c r.row row =
        (f, c') := by
  match h with
  | .answer demands =>
    refine ⟨0, fun _ _ => ?_⟩
    rw [Machine.execute_eq_settle, demand_host, demands, Machine.settle]
  | .write demands written =>
    obtain ⟨n, answered⟩ := Writes.computed written
    refine ⟨n, fun room enough => ?_⟩
    rw [Machine.execute_eq_settle, demand_host, demands, Machine.settle]
    simp only [host, answered room enough]
  | .push demands =>
    refine ⟨0, fun _ _ => ?_⟩
    rw [Machine.execute_eq_settle, demand_host, demands]
    rfl
termination_by structural h

end

/-- **The course of a write is determined**: its answer and the change it leaves. -/
theorem Writes.unique {c c₁ c₂ : Change} {name : String} {value : Value} {o₁ o₂ : WriteOutcome}
    (h₁ : Writes options subscriptions c name value o₁ c₁)
    (h₂ : Writes options subscriptions c name value o₂ c₂) : o₁ = o₂ ∧ c₁ = c₂ := by
  obtain ⟨n, first⟩ := h₁.computed
  obtain ⟨m, second⟩ := h₂.computed
  have same := (first (max n m) (by omega)).symm.trans (second (max n m) (by omega))
  exact Prod.ext_iff.1 same

/-! ## What is in flight at the end -/

mutual

/-- **A write leaves in flight what was in flight before it**, whatever its answer and whatever
became of the programs it set off. -/
theorem Writes.level {c c' : Change} {name : String} {value : Value} {o : WriteOutcome}
    (h : Writes options subscriptions c name value o c') : Level c c' := by
  match h with
  | .unknown _ => exact .refl c
  | .suppressed _ _ => exact .record c _
  | .applied set _ notified => exact .leave set (Notifies.level notified)
termination_by structural h

theorem Notifies.level {c c' : Change} {ss : List Subscription}
    (h : Notifies options subscriptions ss c c') : Level c c' := by
  match h with
  | .nil => exact .refl c
  | .cons first others => exact (Responds.level first).trans (Notifies.level others)
termination_by structural h

theorem Responds.level {c c' : Change} {field : String} {index : Nat} {ps : List Program}
    (h : Responds options subscriptions field index ps c c') : Level c c' := by
  match h with
  | .nil => exact .refl c
  | .finished ran others => exact (Runs.level ran).trans (Responds.level others)
  | .failed ran others =>
    exact ((Runs.level ran).trans (.record _ _)).trans (Responds.level others)
termination_by structural h

theorem Runs.level {p : Program} {r : RunState} {c c' : Change} {a : Except RuleError RunState}
    (h : Runs options subscriptions p r c a c') : Level c c' := by
  match h with
  | .left _ => exact .refl c
  | .limit _ _ => exact .refl c
  | .failed _ _ executed => exact Executes.level executed
  | .next _ _ executed others => exact (Executes.level executed).trans (Runs.level others)
termination_by structural h

theorem Executes.level {r : RunState} {row : Row} {c c' : Change} {f : Except RuleError Flow}
    (h : Executes options subscriptions r row c f c') : Level c c' := by
  match h with
  | .answer _ => exact .refl c
  | .write _ written => exact Writes.level written
  | .push _ => exact .push c _ _ _
termination_by structural h

end

end Propagation

end Formulary
