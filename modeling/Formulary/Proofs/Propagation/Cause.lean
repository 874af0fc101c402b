import Formulary.Proofs.Propagation.Chain

/-!
# Causes

Every event of a journal below the host's own write has a cause that the rules and the journal show:
a row that asks for it, in a program of a subscription that depends on a field in the chain of
writes at that point. Hence a change stays among the fields that the rules lead to from the field
changed, and every other field keeps its value.
-/

namespace Formulary

open Journal

namespace Row

/-- An `s` row with the target. -/
structure Sets (r : Row) (target : String) : Prop where
  opcode : r.opcode? = some .set
  target : r.operands[0]? = some target

/-- An `sp` row with the target and the property. -/
structure Pushes (r : Row) (target property : String) : Prop where
  opcode : r.opcode? = some .push
  target : r.operands[0]? = some target
  property : r.operands[1]? = some property

end Row

namespace Subscription

/-- A program of the subscription has an `s` row with the target. -/
def Sets (s : Subscription) (target : String) : Prop :=
  ∃ p ∈ s.programs, ∃ row ∈ p.rows, row.Sets target

/-- A program of the subscription has an `sp` row with the target and the property. -/
def Pushes (s : Subscription) (target property : String) : Prop :=
  ∃ p ∈ s.programs, ∃ row ∈ p.rows, row.Pushes target property

end Subscription

namespace Propagation

variable {options : RunOptions} {subscriptions : List Subscription}

/-- A subscription that depends on the first field can write the second. -/
def Leads (subscriptions : List Subscription) (changed target : String) : Prop :=
  ∃ s ∈ subscriptions, s.dependsOn changed = true ∧ s.Sets target

/-- The rules lead from the first field to the second, over any number of writes. -/
abbrev Reaches (subscriptions : List Subscription) : String → String → Prop :=
  Relation.ReflTransGen (Leads subscriptions)

/-- Why an event is in a journal, given the events before it. A write below the first is due to the
field one above it in its chain; a suppressed one to a field of the chain, at or below the place of
the field itself; a push, delivered or not, and a failure to some field of the chain. -/
def Caused (subscriptions : List Subscription) (before : List JournalEntry) : JournalEntry → Prop
  | .write field v depth =>
    ∀ d, depth = d + 1 → ∃ changed,
      (chain (before ++ [.write field v depth]))[d]? = some changed ∧ Leads subscriptions changed field
  | .suppressed field _ =>
    ∃ (i j : Nat) (changed : String), i ≤ j ∧ (chain before)[i]? = some field ∧ (chain before)[j]? = some changed ∧
      Leads subscriptions changed field
  | .push target property _ =>
    ∃ changed ∈ chain before, ∃ s ∈ subscriptions, s.dependsOn changed = true ∧
      s.Pushes target property
  | .noBinding target property =>
    ∃ changed ∈ chain before, ∃ s ∈ subscriptions, s.dependsOn changed = true ∧
      s.Pushes target property
  | .failure field program _ =>
    ∃ changed ∈ chain before, ∃ s ∈ subscriptions, s.dependsOn changed = true ∧
      s.field = field ∧ program < s.programs.length

theorem Demanded.leads {c : Change} {field : String} {v : Value}
    (h : Demanded options subscriptions c (.write field v)) :
    ∃ changed outer, c.inFlight.names = changed :: outer ∧ Leads subscriptions changed field := by
  obtain ⟨s, ⟨mem, changed, innermost, depends⟩, p, ofS, row, ofP, index, demands⟩ := h
  obtain ⟨outer, names⟩ := List.head?_eq_some_iff.1 innermost
  obtain ⟨opcode, -, source, rest, operands, -⟩ := Machine.of_demand_write demands
  have sets : row.Sets field := ⟨opcode, by rw [operands]; rfl⟩
  exact ⟨changed, outer, names, s, mem, depends, p, ofS, row, ofP, sets⟩

theorem Demanded.pushes {c : Change} {target property : String} {v : Value}
    (h : Demanded options subscriptions c (.push target property v)) :
    ∃ changed ∈ c.inFlight.names, ∃ s ∈ subscriptions, s.dependsOn changed = true ∧
      s.Pushes target property := by
  obtain ⟨s, ⟨mem, changed, innermost, depends⟩, p, ofS, row, ofP, index, demands⟩ := h
  obtain ⟨opcode, -, source, rest, operands, -⟩ := Machine.of_demand_push demands
  have pushes : row.Pushes target property := ⟨opcode, by rw [operands]; rfl, by rw [operands]; rfl⟩
  exact ⟨changed, List.mem_of_mem_head? innermost, s, mem, depends, p, ofS, row, ofP, pushes⟩

theorem getElem?_reverse_cons {changed : String} {outer : List String} :
    (changed :: outer).reverse[outer.length]? = some changed := by
  rw [List.reverse_cons, ← List.length_reverse, List.getElem?_concat_length]

theorem caused_write {names : List String} {es : List JournalEntry} {field : String} {v : Value}
    {changed : String} {outer : List String} (anchored : Anchored names es)
    (nested : names = changed :: outer) (leads : Leads subscriptions changed field) :
    Caused subscriptions es (.write field v names.length) := by
  intro d ofDepth
  refine ⟨changed, ?_, leads⟩
  have place : d = outer.length := by rw [nested] at ofDepth; simp at ofDepth; omega
  rw [chain_enter anchored.latest, place, nested, List.getElem?_append_left (by simp)]
  exact getElem?_reverse_cons

theorem caused_suppressed {names : List String} {es : List JournalEntry} {field : String} {v : Value}
    {changed : String} {outer : List String} (anchored : Anchored names es)
    (nested : names = changed :: outer) (busy : field ∈ names)
    (leads : Leads subscriptions changed field) : Caused subscriptions es (.suppressed field v) := by
  obtain ⟨more, chained⟩ := anchored.prefix_chain
  obtain ⟨i, less, found⟩ := List.getElem_of_mem (List.mem_reverse.2 busy)
  have size : names.reverse.length = outer.length + 1 := by simp [nested]
  refine ⟨i, outer.length, changed, by omega, ?_, ?_, leads⟩
  · rw [← chained, List.getElem?_append_left less, List.getElem?_eq_getElem less, found]
  · rw [← chained, List.getElem?_append_left (by omega), nested]
    exact getElem?_reverse_cons

theorem Step.caused {a b : Change} (step : Step options subscriptions a b)
    (anchored : Anchored a.inFlight.names a.journal.toList)
    (h : Each (Caused subscriptions) a.journal.toList) :
    Each (Caused subscriptions) b.journal.toList := by
  cases step with
  | enter demanded set free =>
    obtain ⟨changed, outer, nested, leads⟩ := demanded.leads
    rw [enter_events]
    exact h.concat (caused_write anchored nested leads)
  | leave => exact h
  | suppress demanded declared busy =>
    obtain ⟨changed, outer, nested, leads⟩ := demanded.leads
    rw [record_events]
    exact h.concat (caused_suppressed anchored nested busy leads)
  | push demanded =>
    obtain ⟨changed, busy, cause⟩ := demanded.pushes
    rw [push_events]
    refine h.concat ?_
    split <;> exact ⟨changed, anchored.mem_chain busy, cause⟩
  | fail notified has =>
    obtain ⟨mem, changed, innermost, depends⟩ := notified
    rw [record_events]
    have busy := anchored.mem_chain (List.mem_of_mem_head? innermost)
    have within := (List.getElem?_eq_some_iff.1 has).1
    exact h.concat ⟨changed, busy, _, mem, depends, rfl, within⟩

/-! ## What a change leaves alone -/

/-- The change stays among the fields that the rules lead to from a field. -/
structure Confined (subscriptions : List Subscription) (name : String) (s : Store) (c : Change) :
    Prop where
  inFlight : ∀ field ∈ c.inFlight.names, Reaches subscriptions name field
  written : ∀ field v depth, .write field v depth ∈ c.journal.toList → Reaches subscriptions name field
  kept : ∀ field, ¬ Reaches subscriptions name field → c.store.get? field = s.get? field

theorem Confined.enter {name field : String} {s store : Store} {c : Change} {value : Value}
    (h : Confined subscriptions name s c) (reached : Reaches subscriptions name field)
    (set : c.store.set? field value = some store) :
    Confined subscriptions name s (c.enter store field value) where
  inFlight := by
    rw [enter_names]
    exact List.forall_mem_cons.2 ⟨reached, h.inFlight⟩
  written := by
    intro other v depth mem
    rw [enter_events, List.mem_append, List.mem_singleton] at mem
    rcases mem with old | new
    · exact h.written other v depth old
    · cases new
      exact reached
  kept := by
    intro other unreached
    have differs : other ≠ field := fun same => unreached (same ▸ reached)
    rw [enter_store, Store.get?_of_set? set, if_neg differs, h.kept other unreached]

theorem Confined.record {name : String} {s : Store} {c : Change} {e : JournalEntry}
    (h : Confined subscriptions name s c) (quiet : e.depth? = none) :
    Confined subscriptions name s (c.record e) where
  inFlight := h.inFlight
  written := by
    intro field v depth mem
    rw [record_events, List.mem_append, List.mem_singleton] at mem
    rcases mem with old | rfl
    · exact h.written field v depth old
    · cases quiet
  kept := h.kept

theorem Step.confined {name : String} {s : Store} {a b : Change}
    (step : Step options subscriptions a b) (h : Confined subscriptions name s a) :
    Confined subscriptions name s b := by
  cases step with
  | enter demanded set =>
    obtain ⟨changed, outer, nested, leads⟩ := demanded.leads
    have reached := h.inFlight changed (by rw [nested]; exact List.mem_cons_self)
    exact h.enter (reached.tail leads) set
  | leave nested =>
    refine ⟨?_, h.written, h.kept⟩
    rw [leave_names nested]
    intro field mem
    exact h.inFlight field (by rw [nested]; exact List.mem_cons_of_mem _ mem)
  | suppress => exact h.record rfl
  | @push target property value =>
    rcases a.push_cases target property value with ⟨registry, -, pushed⟩ | ⟨-, pushed⟩
    · rw [pushed]
      exact Confined.record ⟨h.inFlight, h.written, h.kept⟩ rfl
    · rw [pushed]
      exact h.record rfl
  | fail => exact h.record rfl

end Propagation

namespace Form

open Propagation

theorem confined_change {f : Form} {name : String} :
    Confined f.subscriptions name f.store f.change where
  inFlight := fun _ mem => absurd mem List.not_mem_nil
  written := fun _ _ _ mem => absurd mem List.not_mem_nil
  kept := fun _ _ => rfl

/-- **Every effect of a change has a cause**, as `Caused` says. Consequently a field that the rules
do not lead to from the field changed is not written and keeps its value. -/
theorem setValue_caused (f : Form) (name : String) (declared : name ∈ f.store.names) (value : Value) :
    ∃ f' j, f.setValue name value = .ok (f', j) ∧
      Each (Caused f.subscriptions) j.toList ∧
      ∀ field, ¬ Reaches f.subscriptions name field →
        (∀ v depth, .write field v depth ∉ j.toList) ∧ f'.value? field = f.value? field := by
  obtain ⟨store, c, set, notified, result⟩ := setValue_course declared value
  have steps := (steps_of_notifies notified).1
  have caused : Guard c ∧ Each (Caused f.subscriptions) c.journal.toList :=
    Steps.invariant (P := fun c => Guard c ∧ Each (Caused f.subscriptions) c.journal.toList) steps
      (fun _ _ step h => ⟨step.guard h.1, step.caused h.1.anchored h.2⟩)
      ⟨guard_change set, Each.nil.concat fun d deeper => absurd deeper (Nat.succ_ne_zero d).symm⟩
  have confined : Confined f.subscriptions name f.store c :=
    Steps.invariant steps (fun _ _ step => step.confined) (confined_change.enter .refl set)
  refine ⟨_, _, result, caused.2, fun field unreached => ⟨fun v depth mem => ?_, ?_⟩⟩
  · exact unreached (confined.written field v depth mem)
  · exact confined.kept field unreached

theorem mirrors_caused :
    "left" ∈ mirrors.store.names ∧
      ∃ f' j, mirrors.setValue "left" (.text "x") = .ok (f', j) ∧
        Each (Caused mirrors.subscriptions) j.toList ∧
        ∀ field, ¬ Reaches mirrors.subscriptions "left" field →
          (∀ v depth, .write field v depth ∉ j.toList) ∧ f'.value? field = mirrors.value? field :=
  ⟨by decide, setValue_caused mirrors "left" (by decide) (.text "x")⟩

end Form

end Formulary
