import Formulary.Proofs.Propagation.Termination

/-!
# The guard as the journal shows it

The fields in flight are not in the journal, but the depths of the writes tell them: the latest
write of each depth below the number of fields in flight is the write of the field in flight there
(`Anchored`). So where a field goes in flight the chain of the journal is the list of fields in
flight, and everywhere else it begins with it. `Form.setValue_guarded` says what the guard then
means for a journal.
-/

namespace Formulary

open Journal

namespace Propagation

variable {options : RunOptions} {subscriptions : List Subscription}

/-- The journal shows the fields in flight, given innermost first. -/
structure Anchored (names : List String) (es : List JournalEntry) : Prop where
  latest : ∀ d < names.length, latest es d = names.reverse[d]?
  deep : ∃ last, lastDepth es = some last ∧ names.length ≤ last + 1

namespace Anchored

variable {names rest : List String} {name inner : String} {es : List JournalEntry} {e : JournalEntry}
  {v : Value}

theorem latest_enter (h : ∀ d < names.length, Journal.latest es d = names.reverse[d]?) :
    ∀ d < (name :: names).length, Journal.latest (es ++ [.write name v names.length]) d =
      (name :: names).reverse[d]? := by
  intro d less
  rw [latest_concat_write, List.reverse_cons]
  by_cases top : names.length = d
  · subst top
    simp
  · have below : d < names.length := by simp at less; omega
    rw [if_neg top, h d below, List.getElem?_append_left (by simpa using below)]

theorem enter (h : ∀ d < names.length, Journal.latest es d = names.reverse[d]?) :
    Anchored (name :: names) (es ++ [.write name v names.length]) where
  latest := latest_enter h
  deep := ⟨names.length, lastDepth_concat_write, by simp⟩

theorem concat (h : Anchored names es) (quiet : e.depth? = none) : Anchored names (es ++ [e]) where
  latest := fun d less => by rw [latest_concat quiet, h.latest d less]
  deep := by rw [lastDepth_concat quiet]; exact h.deep

theorem leave (h : Anchored (inner :: rest) es) : Anchored rest es where
  latest := by
    intro d less
    have below : d < rest.reverse.length := by simpa using less
    rw [h.latest d (by simp; omega), List.reverse_cons, List.getElem?_append_left below]
  deep := by
    obtain ⟨last, ofLast, short⟩ := h.deep
    exact ⟨last, ofLast, by simp at short; omega⟩

/-- The chain begins with the fields in flight, outermost first. -/
theorem prefix_chain (h : Anchored names es) : names.reverse <+: chain es := by
  obtain ⟨last, ofLast, short⟩ := h.deep
  exact Journal.prefix_chain ofLast (by simpa using short) fun d less =>
    h.latest d (by simpa using less)

theorem mem_chain (h : Anchored names es) (mem : name ∈ names) : name ∈ chain es :=
  h.prefix_chain.subset (List.mem_reverse.2 mem)

end Anchored

/-- Where a field goes in flight the chain is the list of fields in flight. -/
theorem chain_enter {names : List String} {name : String} {es : List JournalEntry} {v : Value}
    (h : ∀ d < names.length, latest es d = names.reverse[d]?) :
    chain (es ++ [.write name v names.length]) = names.reverse ++ [name] := by
  rw [← List.reverse_cons]
  refine chain_eq lastDepth_concat_write (by simp) fun d less => ?_
  exact Anchored.latest_enter h d (by simpa using less)

/-- What the guard makes of an event, given the events before it: the chain of a write is as long as
its depth says and holds no field twice; all writes but the first are below the first and at most
one deeper than the write before; a write is suppressed only if its field is in the chain. -/
def Guarded (before : List JournalEntry) : JournalEntry → Prop
  | .write field v depth =>
    (chain (before ++ [.write field v depth])).length = depth + 1 ∧
      (chain (before ++ [.write field v depth])).Nodup ∧
      (before ≠ [] → 1 ≤ depth ∧ ∃ last, lastDepth before = some last ∧ depth ≤ last + 1)
  | .suppressed field _ => field ∈ chain before
  | _ => True

/-- What holds of a change between its steps. -/
structure Guard (c : Change) : Prop where
  stacked : Stacked c
  anchored : Anchored c.inFlight.names c.journal.toList
  guarded : Each Guarded c.journal.toList

theorem guarded_enter {c : Change} {name : String} {value : Value} {store : Store}
    (stacked : Stacked (c.enter store name value))
    (latest : ∀ d < c.inFlight.names.length, latest c.journal.toList d = c.inFlight.names.reverse[d]?)
    (guarded : Each Guarded c.journal.toList)
    (below : c.journal.toList ≠ [] →
      Anchored c.inFlight.names c.journal.toList ∧ c.inFlight.names ≠ []) :
    Each Guarded (c.enter store name value).journal.toList := by
  rw [enter_events]
  refine guarded.concat ⟨?_, ?_, fun later => ?_⟩
  · simp [chain_enter latest]
  · rw [chain_enter latest, ← List.reverse_cons, List.nodup_reverse]
    exact stacked.distinct
  · obtain ⟨anchored, nested⟩ := below later
    exact ⟨List.length_pos_iff.2 nested, anchored.deep⟩

theorem Demanded.inFlight_ne_nil {c : Change} {d : Machine.Demand}
    (h : Demanded options subscriptions c d) : c.inFlight.names ≠ [] := by
  obtain ⟨s, ⟨-, changed, innermost, -⟩, -⟩ := h
  rintro empty
  simp [empty] at innermost

theorem Step.guard {a b : Change} (step : Step options subscriptions a b) (h : Guard a) : Guard b := by
  have stacked := step.stacked h.stacked
  obtain ⟨-, anchored, guarded⟩ := h
  cases step with
  | enter demanded set free =>
    refine ⟨stacked, ?_, ?_⟩
    · rw [enter_names, enter_events]
      exact .enter anchored.latest
    · exact guarded_enter stacked anchored.latest guarded fun _ => ⟨anchored, demanded.inFlight_ne_nil⟩
  | leave nested =>
    -- the chain still holds the field that left, until the next write replaces it
    rw [nested] at anchored
    exact ⟨stacked, by rw [leave_names nested]; exact anchored.leave, guarded⟩
  | suppress demanded declared busy =>
    refine ⟨stacked, ?_, ?_⟩
    · rw [record_inFlight, record_events]
      exact anchored.concat rfl
    · rw [record_events]
      exact guarded.concat (anchored.mem_chain busy)
  | push =>
    refine ⟨stacked, ?_, ?_⟩ <;> rw [push_events]
    · rw [push_inFlight]
      exact anchored.concat (by split <;> rfl)
    · exact guarded.concat (by split <;> trivial)
  | fail =>
    refine ⟨stacked, ?_, ?_⟩
    · rw [record_inFlight, record_events]
      exact anchored.concat rfl
    · rw [record_events]
      exact guarded.concat trivial

/-! ## The field changed by the host -/

/-- The field changed by the host is in flight all along: its write is the first event and the only
write of it, and it holds the value it was given. -/
structure Held (name : String) (value : Value) (c : Change) : Prop where
  outermost : c.inFlight.names.getLast? = some name
  first : c.journal.toList.head? = some (.write name value 0)
  once : c.journal.toList.countP (·.writes name) = 1
  value : c.store.get? name = some value

theorem Held.mem {name : String} {value : Value} {c : Change} (h : Held name value c) :
    name ∈ c.inFlight.names :=
  List.mem_of_getLast? h.outermost

theorem Held.first_concat {name : String} {value : Value} {c : Change} (h : Held name value c)
    (e : JournalEntry) : (c.journal.toList ++ [e]).head? = some (.write name value 0) := by
  rw [List.head?_append, h.first]
  rfl

theorem Held.once_concat {name : String} {value : Value} {c : Change} (h : Held name value c)
    {e : JournalEntry} (other : e.writes name = false) :
    (c.journal.toList ++ [e]).countP (·.writes name) = 1 := by
  rw [List.countP_append, h.once, List.countP_singleton, other]
  rfl

theorem Step.held {a b : Change} {name : String} {value : Value}
    (step : Step options subscriptions a b) (h : Held name value a) : Held name value b := by
  cases step with
  | @enter field _ _ demanded set free =>
    have other : name ≠ field := fun same => free (same ▸ h.mem)
    refine ⟨?_, ?_, ?_, ?_⟩
    · rw [enter_names, List.getLast?_cons, h.outermost]
      rfl
    · rw [enter_events]
      exact h.first_concat _
    · rw [enter_events]
      exact h.once_concat (beq_false_of_ne other.symm)
    · rw [enter_store, Store.get?_of_set? set, if_neg other, h.value]
  | leave nested =>
    refine ⟨?_, h.first, h.once, h.value⟩
    rw [leave_names nested, ← h.outermost, nested, List.getLast?_cons_cons]
  | suppress =>
    refine ⟨h.outermost, ?_, ?_, h.value⟩ <;> rw [record_events]
    · exact h.first_concat _
    · exact h.once_concat rfl
  | push =>
    refine ⟨by rw [push_inFlight]; exact h.outermost, ?_, ?_, by rw [push_store]; exact h.value⟩ <;>
      rw [push_events]
    · exact h.first_concat _
    · exact h.once_concat (by split <;> rfl)
  | fail =>
    refine ⟨h.outermost, ?_, ?_, h.value⟩ <;> rw [record_events]
    · exact h.first_concat _
    · exact h.once_concat rfl

end Propagation

namespace Form

open Propagation

variable {f : Form} {name : String} {value : Value} {store : Store}

/-- The host's own write is the first event. -/
theorem change_events : (f.change.enter store name value).journal.toList = [.write name value 0] :=
  rfl

theorem guard_change (set : f.store.set? name value = some store) :
    Guard (f.change.enter store name value) := by
  have stacked : Stacked (f.change.enter store name value) :=
    stacked_change.enter set List.not_mem_nil
  have anchored : Anchored [name] ([] ++ [.write name value [].length]) := .enter nofun
  exact ⟨stacked, anchored, guarded_enter stacked nofun .nil fun later => (later rfl).elim⟩

theorem held_change (set : f.store.set? name value = some store) :
    Held name value (f.change.enter store name value) where
  outermost := rfl
  first := rfl
  once := by
    rw [change_events, List.countP_singleton]
    simp [JournalEntry.writes]
  value := by rw [enter_store, Store.get?_of_set? set, if_pos rfl]

/-- **The guard as the journal shows it.** The journal of a change begins with the host's own write;
every later write is at least one and at most one deeper than the write before it; no chain of
writes holds a field twice, and only writes to fields of the chain are suppressed. So the field
changed is written once, and it ends with the value given to it. -/
theorem setValue_guarded (f : Form) (name : String) (declared : name ∈ f.store.names) (value : Value) :
    ∃ f' j, f.setValue name value = .ok (f', j) ∧
      j.toList.head? = some (.write name value 0) ∧
      Each Guarded j.toList ∧
      j.toList.countP (·.writes name) = 1 ∧
      f'.value? name = some value := by
  obtain ⟨store, c, set, notified, result⟩ := setValue_course declared value
  have steps := (steps_of_notifies notified).1
  have guard : Guard c := Steps.invariant steps (fun _ _ step => step.guard) (guard_change set)
  have held : Held name value c := Steps.invariant steps (fun _ _ step => step.held) (held_change set)
  exact ⟨_, _, result, held.first, guard.guarded, held.once, held.value⟩

theorem mirrors_guarded :
    "left" ∈ mirrors.store.names ∧
      ∃ f' j, mirrors.setValue "left" (.text "x") = .ok (f', j) ∧
        j.toList.head? = some (.write "left" (.text "x") 0) ∧
        Each Guarded j.toList ∧
        j.toList.countP (·.writes "left") = 1 ∧
        f'.value? "left" = some (.text "x") :=
  ⟨by decide, setValue_guarded mirrors "left" (by decide) (.text "x")⟩

end Form

end Formulary
