import Mathlib.Data.List.Forall2
import Formulary.Proofs.Propagation.Graph

/-!
# Changes abreast

Two changes with the same rules, of which one may find other values in its fields and other components
mounted, run abreast as long as they read the same: their rows demand the same, their writes are applied
or suppressed alike, and where one pushes the other does, though one may find a component bound and the
other none. So nothing but the values read decides the course of a change, and these are values of the
names in `Reads`. `Writes.abreast` is the induction on the course of the one change; it makes the course
of the other.
-/

namespace Formulary

/-- The events are the same, or an attempt at the same push that found a component bound in the one case
and none in the other. -/
inductive JournalEntry.Matches : JournalEntry → JournalEntry → Prop where
  | same (e : JournalEntry) : Matches e e
  | missed (target property : String) (value : Value) :
      Matches (.push target property value) (.noBinding target property)
  | found (target property : String) (value : Value) :
      Matches (.noBinding target property) (.push target property value)

/-- The journals have the same length and match event by event. -/
def Journal.Matches (j k : Journal) : Prop :=
  List.Forall₂ JournalEntry.Matches j.toList k.toList

namespace Propagation

variable {options : RunOptions} {subscriptions : List Subscription} {root : String}

/-- Two changes that stand at the same point: the same fields are declared and in flight, the names that
matter read the same, and the journals match. -/
structure Abreast (matter : String → Prop) (c d : Change) : Prop where
  inFlight : d.inFlight = c.inFlight
  names : d.store.names = c.store.names
  reads : ∀ name, matter name → d.store.get? name = c.store.get? name
  journals : c.journal.Matches d.journal

namespace Abreast

variable {matter : String → Prop} {c d : Change} {e e' : JournalEntry} {name : String} {value : Value}

theorem record (h : Abreast matter c d) (same : e.Matches e') :
    Abreast matter (c.record e) (d.record e') where
  inFlight := h.inFlight
  names := h.names
  reads := h.reads
  journals := by
    unfold Journal.Matches
    rw [record_events, record_events]
    exact List.rel_append h.journals (.cons same .nil)

theorem enter {store store' : Store} (h : Abreast matter c d)
    (set : c.store.set? name value = some store) (set' : d.store.set? name value = some store') :
    Abreast matter (c.enter store name value) (d.enter store' name value) where
  inFlight := by simp only [Change.enter, Change.record, h.inFlight]
  names := by
    change store'.names = store.names
    rw [Store.names_of_set? set, Store.names_of_set? set', h.names]
  reads := by
    intro other counts
    rw [enter_store, enter_store, Store.get?_of_set? set, Store.get?_of_set? set',
      h.reads other counts]
  journals := by
    unfold Journal.Matches
    rw [enter_events, enter_events, h.inFlight]
    exact List.rel_append h.journals (.cons (.same _) .nil)

theorem leave (h : Abreast matter c d) (name : String) : Abreast matter (c.leave name) (d.leave name) where
  inFlight := by simp only [Change.leave, h.inFlight]
  names := h.names
  reads := h.reads
  journals := h.journals

theorem push (h : Abreast matter c d) (target property : String) (value : Value) :
    Abreast matter (c.push target property value).2 (d.push target property value).2 where
  inFlight := by rw [push_inFlight, push_inFlight, h.inFlight]
  names := by rw [push_store, push_store, h.names]
  reads := by rw [push_store, push_store]; exact h.reads
  journals := by
    unfold Journal.Matches
    rw [push_events, push_events]
    refine List.rel_append h.journals (.cons ?_ .nil)
    split <;> split
    · exact .same _
    · exact .missed _ _ _
    · exact .found _ _ _
    · exact .same _

end Abreast

/-- Whether a push finds a component bound makes no difference to the row that asks for it. -/
theorem afterPush_push {c : Change} {row : Nat} {target property : String} {value : Value} :
    Machine.afterPush row (c.push target property value).1 = .ok .next := by
  rcases c.push_cases target property value with ⟨registry, -, pushed⟩ | ⟨-, pushed⟩ <;>
    rw [pushed] <;> rfl

theorem executes_push {r : RunState} {row : Row} {c : Change} {target property : String} {value : Value}
    (demands : Machine.demand reader options.relation r.context c r.row row =
      .push target property value) :
    Executes options subscriptions r row c (.ok .next) (c.push target property value).2 := by
  have executed : Executes options subscriptions r row c _ _ := .push demands
  rwa [afterPush_push] at executed

section

variable {c d : Change} {s : Subscription} {p : Program} {row : Row} {context : Context} {index : Nat}
  {relation : Relation}

/-- A row of a subscription concerned demands the same of both changes. -/
theorem Abreast.demand (h : Abreast (Reads subscriptions root) c d)
    (concerned : Concerned subscriptions root s) (ofS : p ∈ s.programs) (has : row ∈ p.rows) :
    Machine.demand reader relation context d index row =
      Machine.demand reader relation context c index row :=
  Machine.demand_congr fun operand reads =>
    h.reads operand ⟨s, concerned, Subscription.mem_sources ofS has reads⟩

/-- It demands writes only of fields the rules lead to. -/
theorem Concerned.reaches_of_demand {target : String} {value : Value}
    (concerned : Concerned subscriptions root s) (ofS : p ∈ s.programs) (has : row ∈ p.rows)
    (demands : Machine.demand reader relation context c index row = .write target value) :
    Reaches subscriptions root target := by
  obtain ⟨opcode, -, source, rest, operands, -⟩ := Machine.of_demand_write demands
  exact concerned.reaches ⟨p, ofS, row, has, opcode, by rw [operands]; rfl⟩

end

mutual

/-- **Changes run abreast as long as they read the same.** -/
theorem Writes.abreast {c c' d : Change} {name : String} {value : Value} {o : WriteOutcome}
    (h : Writes options subscriptions c name value o c') (reached : Reaches subscriptions root name)
    (side : Abreast (Reads subscriptions root) c d) :
    ∃ d', Writes options subscriptions d name value o d' ∧
      Abreast (Reads subscriptions root) c' d' := by
  match h with
  | .unknown undeclared =>
    exact ⟨d, .unknown (by rw [side.names]; exact undeclared), side⟩
  | .suppressed declared busy =>
    refine ⟨_, .suppressed ?_ ?_, side.record (.same _)⟩
    · rw [side.names]; exact declared
    · rw [side.inFlight]; exact busy
  | .applied set free notified =>
    have declared : name ∈ d.store.names := by rw [side.names]; exact Store.mem_of_set? set
    obtain ⟨store', set'⟩ := Option.isSome_iff_exists.1 (Store.set?_isSome_iff.2 declared)
    obtain ⟨d', notified', ends⟩ := Notifies.abreast notified
      (fun _ mem => concerned_of_dependents reached mem) (side.enter set set')
    exact ⟨_, .applied set' (by rw [side.inFlight]; exact free) notified', ends.leave name⟩
termination_by structural h

theorem Notifies.abreast {c c' d : Change} {ss : List Subscription}
    (h : Notifies options subscriptions ss c c') (concerned : ∀ s ∈ ss, Concerned subscriptions root s)
    (side : Abreast (Reads subscriptions root) c d) :
    ∃ d', Notifies options subscriptions ss d d' ∧ Abreast (Reads subscriptions root) c' d' := by
  match h with
  | .nil => exact ⟨d, .nil, side⟩
  | .cons first others =>
    obtain ⟨d', first', between⟩ :=
      Responds.abreast first (concerned _ List.mem_cons_self) (fun _ mem => mem) side
    obtain ⟨d'', others', ends⟩ :=
      Notifies.abreast others (fun s mem => concerned s (List.mem_cons_of_mem _ mem)) between
    exact ⟨d'', .cons first' others', ends⟩
termination_by structural h

theorem Responds.abreast {c c' d : Change} {s : Subscription} {field : String} {index : Nat}
    {ps : List Program} (h : Responds options subscriptions field index ps c c')
    (concerned : Concerned subscriptions root s) (ofS : ∀ p ∈ ps, p ∈ s.programs)
    (side : Abreast (Reads subscriptions root) c d) :
    ∃ d', Responds options subscriptions field index ps d d' ∧
      Abreast (Reads subscriptions root) c' d' := by
  match h with
  | .nil => exact ⟨d, .nil, side⟩
  | .finished ran others =>
    obtain ⟨d', ran', between⟩ := Runs.abreast ran concerned (ofS _ List.mem_cons_self) side
    obtain ⟨d'', others', ends⟩ :=
      Responds.abreast others concerned (fun p mem => ofS p (List.mem_cons_of_mem _ mem)) between
    exact ⟨d'', .finished ran' others', ends⟩
  | .failed ran others =>
    obtain ⟨d', ran', between⟩ := Runs.abreast ran concerned (ofS _ List.mem_cons_self) side
    obtain ⟨d'', others', ends⟩ :=
      Responds.abreast others concerned (fun p mem => ofS p (List.mem_cons_of_mem _ mem))
        (between.record (.same _))
    exact ⟨d'', .failed ran' others', ends⟩
termination_by structural h

theorem Runs.abreast {c c' d : Change} {s : Subscription} {p : Program} {r : RunState}
    {a : Except RuleError RunState} (h : Runs options subscriptions p r c a c')
    (concerned : Concerned subscriptions root s) (ofS : p ∈ s.programs)
    (side : Abreast (Reads subscriptions root) c d) :
    ∃ d', Runs options subscriptions p r d a d' ∧ Abreast (Reads subscriptions root) c' d' := by
  match h with
  | .left past => exact ⟨d, .left past, side⟩
  | .limit due spent => exact ⟨d, .limit due spent, side⟩
  | .failed due left executed =>
    obtain ⟨d', executed', ends⟩ :=
      Executes.abreast executed concerned ofS (List.mem_of_getElem? due) side
    exact ⟨d', .failed due left executed', ends⟩
  | .next due left executed others =>
    obtain ⟨d', executed', between⟩ :=
      Executes.abreast executed concerned ofS (List.mem_of_getElem? due) side
    obtain ⟨d'', others', ends⟩ := Runs.abreast others concerned ofS between
    exact ⟨d'', .next due left executed' others', ends⟩
termination_by structural h

theorem Executes.abreast {c c' d : Change} {s : Subscription} {p : Program} {r : RunState} {row : Row}
    {f : Except RuleError Flow} (h : Executes options subscriptions r row c f c')
    (concerned : Concerned subscriptions root s) (ofS : p ∈ s.programs) (has : row ∈ p.rows)
    (side : Abreast (Reads subscriptions root) c d) :
    ∃ d', Executes options subscriptions r row d f d' ∧ Abreast (Reads subscriptions root) c' d' := by
  match h with
  | .answer demands =>
    exact ⟨d, .answer ((side.demand concerned ofS has).trans demands), side⟩
  | .write demands written =>
    have reached := concerned.reaches_of_demand ofS has demands
    obtain ⟨d', written', ends⟩ := Writes.abreast written reached side
    exact ⟨d', .write ((side.demand concerned ofS has).trans demands) written', ends⟩
  | .push demands =>
    rw [afterPush_push]
    exact ⟨_, executes_push ((side.demand concerned ofS has).trans demands), side.push _ _ _⟩
termination_by structural h

end

end Propagation

end Formulary
