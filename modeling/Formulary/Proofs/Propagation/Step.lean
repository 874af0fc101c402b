import Mathlib.Data.List.Perm.Subperm
import Mathlib.Logic.Relation
import Formulary.Proofs.Journal
import Formulary.Proofs.Propagation.Course
import Formulary.Proofs.Registry

/-!
# The steps of a change

Runs nest in runs, but what they do to the change is a sequence of steps, each of which records at
most one event: a field goes in flight, leaves it, a write is suppressed, a property is pushed, a
failure is recorded. A step says what it comes from: a row of a program of a subscription that
depends on the innermost field in flight.

`Notifies.steps` takes the nesting apart once. What holds at every step of a change, and so of its
journal, is then shown step by step with `Steps.invariant`.
-/

namespace Formulary.Propagation

variable {options : RunOptions} {subscriptions : List Subscription}

/-- The subscription depends on the innermost field in flight. -/
structure Notified (subscriptions : List Subscription) (c : Change) (s : Subscription) : Prop where
  mem : s ∈ subscriptions
  innermost : ∃ changed, c.inFlight.names.head? = some changed ∧ s.dependsOn changed = true

theorem Notified.of_level {c c' : Change} {s : Subscription} (h : Notified subscriptions c s)
    (level : Level c c') : Notified subscriptions c' s where
  mem := h.mem
  innermost := by rw [level.inFlight]; exact h.innermost

/-- A row of a program of a notified subscription comes to the demand. -/
def Demanded (options : RunOptions) (subscriptions : List Subscription) (c : Change)
    (d : Machine.Demand) : Prop :=
  ∃ s, Notified subscriptions c s ∧ ∃ p ∈ s.programs, ∃ row ∈ p.rows, ∃ index,
    Machine.demand reader options.relation .propagation c index row = d

/-- One step of a change, below the write asked for by the host. -/
inductive Step (options : RunOptions) (subscriptions : List Subscription) : Change → Change → Prop where
  /-- A row writes a field. -/
  | enter {c name value store} (demanded : Demanded options subscriptions c (.write name value))
      (set : c.store.set? name value = some store) (free : name ∉ c.inFlight.names) :
      Step options subscriptions c (c.enter store name value)
  /-- The dependents of a field written by a row have been notified. -/
  | leave {c inner outer rest} (nested : c.inFlight.names = inner :: outer :: rest) :
      Step options subscriptions c (c.leave inner)
  /-- A row writes a field in flight. -/
  | suppress {c name value} (demanded : Demanded options subscriptions c (.write name value))
      (declared : name ∈ c.store.names) (busy : name ∈ c.inFlight.names) :
      Step options subscriptions c (c.record (.suppressed name value))
  /-- A row pushes a property. -/
  | push {c target property value}
      (demanded : Demanded options subscriptions c (.push target property value)) :
      Step options subscriptions c (c.push target property value).2
  /-- A program fails: a run of it has just ended in the error. -/
  | fail {c start s index p e} (notified : Notified subscriptions c s)
      (has : s.programs[index]? = some p)
      (ran : Runs options subscriptions p { context := .propagation } start (.error e) c) :
      Step options subscriptions c (c.record (.failure s.field index e))

/-- Any number of steps of a change. -/
abbrev Steps (options : RunOptions) (subscriptions : List Subscription) : Change → Change → Prop :=
  Relation.ReflTransGen (Step options subscriptions)

/-- What every step keeps holds at the end if it holds at the start. -/
theorem Steps.invariant {P : Change → Prop} {c c' : Change} (h : Steps options subscriptions c c')
    (kept : ∀ a b, Step options subscriptions a b → P a → P b) (start : P c) : P c' := by
  induction h with
  | refl => exact start
  | tail _ step ih => exact kept _ _ step ih

theorem Demanded.nested {c c' : Change} {name : String} {value : Value} {store : Store}
    {d : Machine.Demand} (demanded : Demanded options subscriptions c d)
    (level : Level (c.enter store name value) c') :
    ∃ outer rest, c'.inFlight.names = name :: outer :: rest := by
  obtain ⟨s, ⟨-, changed, innermost, -⟩, -⟩ := demanded
  obtain ⟨rest, marks⟩ := List.head?_eq_some_iff.1 innermost
  exact ⟨changed, rest, by rw [level.inFlight]; simp [Change.enter, Change.record, marks]⟩

/-- Where a field has just been entered, its dependents are notified. -/
theorem notified_enter {c : Change} {name : String} {value : Value} {store : Store} {s : Subscription}
    (h : s ∈ Subscription.dependents subscriptions name) :
    Notified subscriptions (c.enter store name value) s := by
  obtain ⟨mem, depends⟩ := List.mem_filter.1 h
  exact ⟨mem, name, rfl, depends⟩

theorem drop_eq_cons {ps rest : List Program} {p : Program} {index : Nat}
    (h : ps.drop index = p :: rest) : ps[index]? = some p ∧ ps.drop (index + 1) = rest := by
  refine ⟨?_, ?_⟩
  · rw [← List.head?_drop, h, List.head?_cons]
  · rw [← List.tail_drop, h, List.tail_cons]

mutual

theorem Writes.steps {c c' : Change} {name : String} {value : Value} {o : WriteOutcome}
    (h : Writes options subscriptions c name value o c')
    (demanded : Demanded options subscriptions c (.write name value)) :
    Steps options subscriptions c c' := by
  match h with
  | .unknown _ => exact .refl
  | .suppressed declared busy => exact .single (.suppress demanded declared busy)
  | .applied set free notified =>
    -- the row that writes runs for a field in flight, so the field entered here is not the outermost
    have below := Notifies.steps notified fun _ mem => notified_enter mem
    obtain ⟨outer, rest, nested⟩ := demanded.nested (Notifies.level notified)
    exact (Relation.ReflTransGen.head (.enter demanded set free) below).tail (.leave nested)
termination_by structural h

/-- **Notifying subscriptions is a sequence of steps.** -/
theorem Notifies.steps {c c' : Change} {ss : List Subscription}
    (h : Notifies options subscriptions ss c c') (notified : ∀ s ∈ ss, Notified subscriptions c s) :
    Steps options subscriptions c c' := by
  match h with
  | .nil => exact .refl
  | .cons first others =>
    have next := Notifies.steps others fun s mem =>
      (notified s (List.mem_cons_of_mem _ mem)).of_level (Responds.level first)
    exact (Responds.steps first (notified _ List.mem_cons_self) rfl rfl).trans next
termination_by structural h

theorem Responds.steps {c c' : Change} {s : Subscription} {field : String} {index : Nat}
    {ps : List Program} (h : Responds options subscriptions field index ps c c')
    (notified : Notified subscriptions c s) (ofField : field = s.field)
    (due : s.programs.drop index = ps) : Steps options subscriptions c c' := by
  match h with
  | .nil => exact .refl
  | .finished ran others =>
    obtain ⟨mem, rest⟩ := drop_eq_cons due
    have next := Responds.steps others (notified.of_level (Runs.level ran)) ofField rest
    exact (Runs.steps ran rfl notified (List.mem_of_getElem? mem)).trans next
  | .failed ran others =>
    obtain ⟨mem, rest⟩ := drop_eq_cons due
    have behind := notified.of_level (Runs.level ran)
    have next := Responds.steps others (behind.of_level (.record _ _)) ofField rest
    refine ((Runs.steps ran rfl notified (List.mem_of_getElem? mem)).tail ?_).trans next
    rw [ofField]
    exact .fail behind mem ran
termination_by structural h

theorem Runs.steps {p : Program} {r : RunState} {c c' : Change} {a : Except RuleError RunState}
    {s : Subscription} (h : Runs options subscriptions p r c a c') (ofContext : r.context = .propagation)
    (notified : Notified subscriptions c s) (mem : p ∈ s.programs) :
    Steps options subscriptions c c' := by
  match h with
  | .left _ => exact .refl
  | .limit _ _ => exact .refl
  | .failed due _ executed =>
    exact Executes.steps executed ofContext notified mem (List.mem_of_getElem? due)
  | .next due _ executed others =>
    have next := Runs.steps others (by rw [Machine.context_advance, ofContext])
      (notified.of_level (Executes.level executed)) mem
    exact (Executes.steps executed ofContext notified mem (List.mem_of_getElem? due)).trans next
termination_by structural h

theorem Executes.steps {p : Program} {r : RunState} {row : Row} {c c' : Change}
    {f : Except RuleError Flow} {s : Subscription} (h : Executes options subscriptions r row c f c')
    (ofContext : r.context = .propagation) (notified : Notified subscriptions c s)
    (mem : p ∈ s.programs) (has : row ∈ p.rows) : Steps options subscriptions c c' := by
  match h with
  | .answer _ => exact .refl
  | .write demands written =>
    rw [ofContext] at demands
    exact Writes.steps written ⟨s, notified, p, mem, row, has, _, demands⟩
  | .push demands =>
    rw [ofContext] at demands
    exact .single (.push ⟨s, notified, p, mem, row, has, _, demands⟩)
termination_by structural h

end

/-! ## What a step changes -/

section

variable {c : Change} {name target property : String} {value : Value} {store : Store} {e : JournalEntry}

@[simp] theorem record_inFlight : (c.record e).inFlight = c.inFlight :=
  rfl

@[simp] theorem record_events : (c.record e).journal.toList = c.journal.toList ++ [e] :=
  Journal.toList_record

@[simp] theorem enter_store : (c.enter store name value).store = store :=
  rfl

@[simp] theorem enter_names : (c.enter store name value).inFlight.names = name :: c.inFlight.names :=
  rfl

@[simp] theorem enter_events : (c.enter store name value).journal.toList =
    c.journal.toList ++ [.write name value c.inFlight.names.length] :=
  Journal.toList_record

@[simp] theorem push_store : (c.push target property value).2.store = c.store := by
  rcases c.push_cases target property value with ⟨registry, -, pushed⟩ | ⟨-, pushed⟩ <;>
    rw [pushed] <;> rfl

@[simp] theorem push_inFlight : (c.push target property value).2.inFlight = c.inFlight :=
  (Level.push c target property value).inFlight

/-- A push is recorded as delivered exactly if its target is bound. -/
theorem push_events : (c.push target property value).2.journal.toList = c.journal.toList ++
    [if c.registry.contains target then .push target property value else .noBinding target property] := by
  rcases c.push_cases target property value with ⟨registry, delivered, pushed⟩ | ⟨undelivered, pushed⟩
  · have bound := Registry.contains_of_push? delivered
    rw [pushed, if_pos bound]
    exact Journal.toList_record
  · have unbound := Registry.not_contains_of_push? undelivered
    rw [pushed, if_neg (by rw [unbound]; decide)]
    exact Journal.toList_record

end

/-- No step changes which fields are declared. -/
theorem Step.names {a b : Change} (step : Step options subscriptions a b) :
    b.store.names = a.store.names := by
  cases step with
  | enter _ set => exact Store.names_of_set? set
  | leave => rfl
  | suppress => rfl
  | push => rw [push_store]
  | fail => rfl

/-! ## The fields in flight -/

/-- The fields in flight are distinct and declared. -/
structure Stacked (c : Change) : Prop where
  distinct : c.inFlight.names.Nodup
  declared : c.inFlight.names ⊆ c.store.names

theorem Stacked.enter {c : Change} {name : String} {value : Value} {store : Store} (h : Stacked c)
    (set : c.store.set? name value = some store) (free : name ∉ c.inFlight.names) :
    Stacked (c.enter store name value) where
  distinct := List.nodup_cons.2 ⟨free, h.distinct⟩
  declared := by
    change name :: c.inFlight.names ⊆ store.names
    rw [Store.names_of_set? set]
    exact List.cons_subset.2 ⟨Store.mem_of_set? set, h.declared⟩

theorem Stacked.of_level {c c' : Change} (h : Stacked c) (level : Level c c') : Stacked c' where
  distinct := by rw [level.inFlight]; exact h.distinct
  declared := by rw [level.inFlight, level.names]; exact h.declared

/-- Leaving the innermost field leaves the others in flight. -/
theorem leave_names {c : Change} {inner : String} {rest : List String}
    (nested : c.inFlight.names = inner :: rest) : (c.leave inner).inFlight.names = rest := by
  simp [Change.leave, InFlight.leave, nested]

theorem Step.stacked {a b : Change} (step : Step options subscriptions a b) (h : Stacked a) :
    Stacked b := by
  cases step with
  | enter _ set free => exact h.enter set free
  | leave nested =>
    obtain ⟨distinct, declared⟩ := h
    rw [nested] at distinct declared
    constructor
    · rw [leave_names nested]
      exact (List.nodup_cons.1 distinct).2
    · rw [leave_names nested]
      exact (List.cons_subset.1 declared).2
  | suppress => exact h.of_level (.record _ _)
  | push => exact h.of_level (.push _ _ _ _)
  | fail => exact h.of_level (.record _ _)

/-- A chain of writes is shorter than the list of the fields before it goes one deeper. -/
theorem Stacked.depth_lt {c : Change} {name : String} (h : Stacked c) (declared : name ∈ c.store.names)
    (free : name ∉ c.inFlight.names) : c.inFlight.depth < c.store.names.length := by
  have distinct : (name :: c.inFlight.names).Nodup := List.nodup_cons.2 ⟨free, h.distinct⟩
  have among : name :: c.inFlight.names ⊆ c.store.names := List.cons_subset.2 ⟨declared, h.declared⟩
  exact (List.subperm_of_subset distinct among).length_le

end Formulary.Propagation
