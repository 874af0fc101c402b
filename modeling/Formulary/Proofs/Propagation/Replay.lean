import Formulary.Proofs.Propagation.Termination
import Formulary.Proofs.Seeding

/-!
# Replaying a journal

A journal records everything a change does: the values after it are those before it with the writes
of the journal applied in order, and the registry after it is the one before it with its pushes.
The other events change nothing. `Form.setValue_replays` is the statement for a form; the invariant
`Replayed` carries it from step to step.
-/

namespace Formulary

namespace JournalEntry

/-- The field and the value of a write. -/
def write? : JournalEntry → Option (String × Value)
  | .write field value _ => some (field, value)
  | _ => none

/-- The target, the property and the value of a push. -/
def push? : JournalEntry → Option (String × String × Value)
  | .push target property value => some (target, property, value)
  | _ => none

end JournalEntry

namespace Journal

/-- The writes in order. -/
def writes (j : Journal) : List (String × Value) :=
  j.toList.filterMap JournalEntry.write?

/-- The pushes in order. -/
def pushes (j : Journal) : List (String × String × Value) :=
  j.toList.filterMap JournalEntry.push?

theorem writes_record {j : Journal} {e : JournalEntry} :
    (j.record e).writes = j.writes ++ e.write?.toList := by
  rw [writes, toList_record, List.filterMap_append, writes]
  cases h : e.write? <;> simp [h]

theorem pushes_record {j : Journal} {e : JournalEntry} :
    (j.record e).pushes = j.pushes ++ e.push?.toList := by
  rw [pushes, toList_record, List.filterMap_append, pushes]
  cases h : e.push? <;> simp [h]

end Journal

/-- Pushes properties one after another; none if a target is not bound. -/
def Registry.pushAll? : Registry → List (String × String × Value) → Option Registry
  | r, [] => some r
  | r, (target, property, value) :: rest => (r.push? target property value).bind (pushAll? · rest)

theorem Form.setAll?_concat {s s' : Store} {values : List (String × Value)} {name : String} {v : Value}
    (h : setAll? s values = some s') : setAll? s (values ++ [(name, v)]) = s'.set? name v := by
  induction values generalizing s with
  | nil =>
    cases h
    exact Option.bind_fun_some _
  | cons entry rest ih =>
    obtain ⟨next, written, others⟩ := Option.bind_eq_some_iff.1 h
    rw [List.cons_append, setAll?, written, Option.bind_some, ih others]

theorem Registry.pushAll?_concat {r r' : Registry} {pushes : List (String × String × Value)}
    {target property : String} {v : Value} (h : r.pushAll? pushes = some r') :
    r.pushAll? (pushes ++ [(target, property, v)]) = r'.push? target property v := by
  induction pushes generalizing r with
  | nil =>
    cases h
    exact Option.bind_fun_some _
  | cons entry rest ih =>
    obtain ⟨next, delivered, others⟩ := Option.bind_eq_some_iff.1 h
    rw [List.cons_append, pushAll?, delivered, Option.bind_some, ih others]

namespace Propagation

variable {options : RunOptions} {subscriptions : List Subscription}

/-- The store and the registry of the change are what replaying its journal makes of those it started
from. Its pushes went to targets bound there, and the others were not bound. -/
structure Replayed (s : Store) (r : Registry) (c : Change) : Prop where
  writes : Form.setAll? s c.journal.writes = some c.store
  pushes : r.pushAll? c.journal.pushes = some c.registry
  names : c.store.names = s.names
  mounts : c.registry.mounts = r.mounts
  bound : ∀ target property value, .push target property value ∈ c.journal.toList →
    r.contains target = true
  unbound : ∀ target property, .noBinding target property ∈ c.journal.toList →
    r.contains target = false

namespace Replayed

variable {s : Store} {r : Registry} {c c' : Change} {e : JournalEntry}

theorem start (s : Store) (r : Registry) : Replayed s r { store := s, registry := r } where
  writes := rfl
  pushes := rfl
  names := rfl
  mounts := rfl
  bound := fun _ _ _ mem => absurd mem List.not_mem_nil
  unbound := fun _ _ mem => absurd mem List.not_mem_nil

/-- One more event keeps the replay going if its write was made to the store, its push to the
registry, and there was no binding where it says so. -/
theorem next (h : Replayed s r c) (journal : c'.journal = c.journal.record e)
    (store : e.write?.elim (some c.store) (fun w => c.store.set? w.1 w.2) = some c'.store)
    (registry : e.push?.elim (some c.registry) (fun p => c.registry.push? p.1 p.2.1 p.2.2) =
      some c'.registry)
    (attempt : ∀ target property, e = .noBinding target property →
      c.registry.contains target = false) : Replayed s r c' where
  writes := by
    rw [journal, Journal.writes_record]
    cases write : e.write? with
    | none => rw [Option.toList_none, List.append_nil, h.writes, ← store, write, Option.elim_none]
    | some w => rw [Option.toList_some, Form.setAll?_concat h.writes, ← store, write, Option.elim_some]
  pushes := by
    rw [journal, Journal.pushes_record]
    cases push : e.push? with
    | none => rw [Option.toList_none, List.append_nil, h.pushes, ← registry, push, Option.elim_none]
    | some p =>
      rw [Option.toList_some, Registry.pushAll?_concat h.pushes, ← registry, push, Option.elim_some]
  names := by
    cases write : e.write? with
    | none =>
      rw [write, Option.elim_none] at store
      rw [← Option.some.inj store, h.names]
    | some w =>
      rw [write, Option.elim_some] at store
      rw [Store.names_of_set? store, h.names]
  mounts := by
    cases push : e.push? with
    | none =>
      rw [push, Option.elim_none] at registry
      rw [← Option.some.inj registry, h.mounts]
    | some p =>
      rw [push, Option.elim_some] at registry
      rw [Registry.mounts_of_push? registry, h.mounts]
  bound := by
    intro target property value mem
    rw [journal, Journal.toList_record, List.mem_append, List.mem_singleton] at mem
    rcases mem with old | rfl
    · exact h.bound target property value old
    · rw [← Registry.contains_congr h.mounts]
      exact Registry.contains_of_push? registry
  unbound := by
    intro target property mem
    rw [journal, Journal.toList_record, List.mem_append, List.mem_singleton] at mem
    rcases mem with old | new
    · exact h.unbound target property old
    · rw [← Registry.contains_congr h.mounts]
      exact attempt target property new.symm

/-- Leaving a field changes nothing that is replayed. -/
theorem leave {name : String} (h : Replayed s r c) : Replayed s r (c.leave name) :=
  ⟨h.writes, h.pushes, h.names, h.mounts, h.bound, h.unbound⟩

theorem enter {name : String} {value : Value} {store : Store} (h : Replayed s r c)
    (set : c.store.set? name value = some store) : Replayed s r (c.enter store name value) :=
  h.next rfl set rfl nofun

theorem push (h : Replayed s r c) (target property : String) (value : Value) :
    Replayed s r (c.push target property value).2 := by
  rcases c.push_cases target property value with ⟨registry, delivered, pushed⟩ | ⟨undelivered, pushed⟩
  · rw [pushed]
    exact h.next rfl rfl delivered nofun
  · rw [pushed]
    refine h.next rfl rfl rfl fun t p same => ?_
    cases same
    exact Registry.not_contains_of_push? undelivered

end Replayed

theorem Step.replayed {s : Store} {r : Registry} {a b : Change}
    (step : Step options subscriptions a b) (h : Replayed s r a) : Replayed s r b := by
  cases step with
  | enter _ set => exact h.enter set
  | leave => exact h.leave
  | suppress => exact h.next rfl rfl rfl nofun
  | push => exact h.push _ _ _
  | fail => exact h.next rfl rfl rfl nofun

end Propagation

namespace Form

open Propagation

/-- **A change is what its journal says.** Changing a declared field succeeds, and the values after it
are those before with the writes of the journal applied in order, over the same fields in the same
order; the registry after it is the one before with the pushes of the journal applied in order, the
mounts as they were; what was pushed to was bound, and what had no binding was not. Changing an
undeclared field is refused. -/
theorem setValue_replays (f : Form) (name : String) (value : Value) :
    (name ∈ f.store.names →
      ∃ store registry j, f.setValue name value = .ok ({ f with store, registry }, j) ∧
        setAll? f.store j.writes = some store ∧
        store.names = f.store.names ∧
        f.registry.pushAll? j.pushes = some registry ∧
        registry.mounts = f.registry.mounts ∧
        (∀ target property v, .push target property v ∈ j.toList →
          f.registry.contains target = true) ∧
        ∀ target property, .noBinding target property ∈ j.toList →
          f.registry.contains target = false) ∧
      (name ∉ f.store.names → f.setValue name value = .error (.unknownField name)) := by
  refine ⟨fun declared => ?_, fun undeclared => setValue_of_undeclared undeclared value⟩
  obtain ⟨store, c, set, notified, result⟩ := setValue_course declared value
  have start : Replayed f.store f.registry f.change := .start _ _
  have replayed : Replayed f.store f.registry c :=
    Steps.invariant (steps_of_notifies notified).1 (fun _ _ step => step.replayed) (start.enter set)
  exact ⟨c.store, c.registry, c.journal, result, replayed.writes, replayed.names, replayed.pushes,
    replayed.mounts, replayed.bound, replayed.unbound⟩

theorem mirrors_replays :
    ("left" ∈ mirrors.store.names ∧
      ∃ store registry j,
        mirrors.setValue "left" (.text "x") = .ok ({ mirrors with store, registry }, j) ∧
        setAll? mirrors.store j.writes = some store ∧
        store.names = mirrors.store.names ∧
        mirrors.registry.pushAll? j.pushes = some registry ∧
        registry.mounts = mirrors.registry.mounts ∧
        (∀ target property v, .push target property v ∈ j.toList →
          mirrors.registry.contains target = true) ∧
        ∀ target property, .noBinding target property ∈ j.toList →
          mirrors.registry.contains target = false) ∧
      "middle" ∉ mirrors.store.names ∧
      mirrors.setValue "middle" (.text "x") = .error (.unknownField "middle") :=
  ⟨⟨by decide, (setValue_replays mirrors "left" (.text "x")).1 (by decide)⟩,
    by decide, (setValue_replays mirrors "middle" (.text "x")).2 (by decide)⟩

end Form

end Formulary
