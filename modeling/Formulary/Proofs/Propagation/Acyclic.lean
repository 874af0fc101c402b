import Formulary.Proofs.Propagation.Graph

/-!
# Rules without cycles

A write is suppressed only if its field is in flight, and then the rules lead from that field, over
those further in, back to it. So where the rules lead from the field changed to no cycle, every write
goes through: a field that several paths lead to, or that a loop writes again and again, is written
each time (`Form.setValue_unsuppressed`).
-/

namespace Formulary

namespace Propagation

variable {options : RunOptions} {subscriptions : List Subscription}

/-- The rules lead from each field in flight to those further in. -/
def Linked (subscriptions : List Subscription) (c : Change) : Prop :=
  c.inFlight.names.Pairwise fun inner outer => Reaches subscriptions outer inner

/-- No write was suppressed so far. -/
def Unsuppressed (c : Change) : Prop :=
  ∀ field v, .suppressed field v ∉ c.journal.toList

theorem Unsuppressed.record {c : Change} {e : JournalEntry} (h : Unsuppressed c)
    (other : ∀ field v, e ≠ .suppressed field v) : Unsuppressed (c.record e) := by
  intro field v mem
  rw [record_events, List.mem_append, List.mem_singleton] at mem
  rcases mem with old | new
  · exact h field v old
  · exact other field v new.symm

/-- From every field in flight the rules lead to the innermost one. -/
theorem Linked.reaches {c : Change} {innermost field : String} {outer : List String}
    (h : Linked subscriptions c) (nested : c.inFlight.names = innermost :: outer)
    (busy : field ∈ c.inFlight.names) : Reaches subscriptions field innermost := by
  unfold Linked at h
  rw [nested] at h busy
  rcases List.mem_cons.1 busy with rfl | further
  · exact .refl
  · exact List.rel_of_pairwise_cons h further

theorem Step.linked {a b : Change} (step : Step options subscriptions a b)
    (h : Linked subscriptions a) : Linked subscriptions b := by
  cases step with
  | @enter field _ _ demanded set free =>
    obtain ⟨changed, outer, nested, leads⟩ := demanded.leads
    unfold Linked
    rw [enter_names]
    refine List.pairwise_cons.2 ⟨fun other busy => ?_, h⟩
    exact (h.reaches nested busy).tail leads
  | leave nested =>
    unfold Linked at h ⊢
    rw [leave_names nested]
    rw [nested] at h
    exact List.Pairwise.of_cons h
  | suppress => exact h
  | push =>
    unfold Linked
    rw [push_inFlight]
    exact h
  | fail => exact h

/-- **A write of a row to a field in flight closes a cycle.** -/
theorem Linked.cyclic {c : Change} {field : String} {v : Value} (h : Linked subscriptions c)
    (demanded : Demanded options subscriptions c (.write field v)) (busy : field ∈ c.inFlight.names) :
    Cyclic subscriptions field := by
  obtain ⟨changed, outer, nested, leads⟩ := demanded.leads
  exact Relation.TransGen.tail' (h.reaches nested busy) leads

/-- What holds between the steps of a change that suppresses nothing. -/
structure Unhindered (subscriptions : List Subscription) (name : String) (s : Store) (c : Change) :
    Prop where
  names : c.store.names = s.names
  confined : Confined subscriptions name s c
  linked : Linked subscriptions c
  unsuppressed : Unsuppressed c

theorem Step.unhindered {name : String} {s : Store} {a b : Change}
    (acyclic : ∀ field ∈ s.names, Reaches subscriptions name field → ¬ Cyclic subscriptions field)
    (step : Step options subscriptions a b) (h : Unhindered subscriptions name s a) :
    Unhindered subscriptions name s b where
  names := step.names.trans h.names
  confined := step.confined h.confined
  linked := step.linked h.linked
  unsuppressed := by
    cases step with
    | enter => exact Unsuppressed.record h.unsuppressed nofun
    | leave => exact h.unsuppressed
    | @suppress field _ demanded declared busy =>
      rw [h.names] at declared
      have reached := h.confined.inFlight field busy
      exact (acyclic field declared reached (h.linked.cyclic demanded busy)).elim
    | @push target property value =>
      rcases a.push_cases target property value with ⟨registry, -, pushed⟩ | ⟨-, pushed⟩
      · rw [pushed]
        exact Unsuppressed.record h.unsuppressed nofun
      · rw [pushed]
        exact h.unsuppressed.record nofun
    | fail => exact h.unsuppressed.record nofun

end Propagation

namespace Form

open Propagation

theorem unhindered_change {f : Form} {name : String} {value : Value} {store : Store}
    (set : f.store.set? name value = some store) :
    Unhindered f.subscriptions name f.store (f.change.enter store name value) where
  names := Store.names_of_set? set
  confined := confined_change.enter .refl set
  linked := List.pairwise_singleton _ _
  unsuppressed := Unsuppressed.record (fun _ _ mem => absurd mem List.not_mem_nil) nofun

/-- **Without cycles no write is lost.** If the rules lead from the field changed to no field that they
lead back to itself, the journal of the change has no suppressed write. -/
theorem setValue_unsuppressed (f : Form) (name : String) (declared : name ∈ f.store.names)
    (acyclic : ∀ field ∈ f.store.names, Reaches f.subscriptions name field →
      ¬ Cyclic f.subscriptions field) (value : Value) :
    ∃ f' j, f.setValue name value = .ok (f', j) ∧
      ∀ field v, .suppressed field v ∉ j.toList := by
  obtain ⟨store, c, set, notified, result⟩ := setValue_course declared value
  have unhindered : Unhindered f.subscriptions name f.store c :=
    Steps.invariant (steps_of_notifies notified).1 (fun _ _ step => step.unhindered acyclic)
      (unhindered_change set)
  exact ⟨_, _, result, unhindered.unsuppressed⟩

/-- A field copied to two others, each of which is copied to a fourth, and in one of them twice. -/
def delta : Form where
  name := "delta"
  options := {}
  lengthRules := []
  subscriptions :=
    [⟨"left", ["source"], [⟨[⟨"s", ["left", "source"]⟩, ⟨"s", ["left", "source"]⟩]⟩]⟩,
      ⟨"right", ["source"], [⟨[⟨"s", ["right", "source"]⟩]⟩]⟩,
      ⟨"mouth", ["left", "right"], [⟨[⟨"s", ["mouth", "left"]⟩]⟩, ⟨[⟨"s", ["mouth", "right"]⟩]⟩]⟩]
  validators := []
  issues := []
  owner := ⟨1⟩
  store := ⟨[("source", .null), ("left", .null), ("right", .null), ("mouth", .null)]⟩
  registry := { owners := 1 }

theorem delta_unsuppressed :
    "source" ∈ delta.store.names ∧
      (∀ field ∈ delta.store.names, Reaches delta.subscriptions "source" field →
        ¬ Cyclic delta.subscriptions field) ∧
      ∃ f' j, delta.setValue "source" (.text "x") = .ok (f', j) ∧
        (∀ field v, .suppressed field v ∉ j.toList) ∧
        j.toList.countP (·.writes "mouth") = 6 := by
  have acyclic : ∀ field ∈ delta.store.names, Reaches delta.subscriptions "source" field →
      ¬ Cyclic delta.subscriptions field := by
    intro field _ _
    exact not_cyclic_of_rank (["source", "left", "right", "mouth"].idxOf ·) (by decide)
  obtain ⟨f', j, result, unsuppressed⟩ :=
    setValue_unsuppressed delta "source" (by decide) acyclic (.text "x")
  have counted : (delta.setValue "source" (.text "x")).map
      (fun change => change.2.toList.countP (·.writes "mouth")) = .ok 6 := by
    decide +kernel
  rw [result] at counted
  exact ⟨by decide, acyclic, f', j, result, unsuppressed, Except.ok.inj counted⟩

end Form

end Formulary
