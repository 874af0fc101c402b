import Formulary.Proofs.Propagation.Chain

/-!
# Where values come from

Rules move values and make none up. A row resolves its source when it runs, against values that nested writes
have moved about, so where a value was first may lie many writes back; but every value there is in a change was
given by the host, was held by a field before, or is a number that stands in a rule (`Origin`). That is kept
step by step of the values of the fields and of the events together (`Step.sourced`), since a row can only
take the one and make the other of it.
-/

namespace Formulary

/-- The operand whose value the row writes or pushes. -/
def Row.source? (r : Row) : Option String :=
  match r.opcode? with
  | some .set => r.operands[1]?
  | some .push => r.operands[2]?
  | _ => none

/-- The value that was written or pushed, or whose write was suppressed. -/
def JournalEntry.value? : JournalEntry → Option Value
  | .write _ value _ => some value
  | .suppressed _ value => some value
  | .push _ _ value => some value
  | .noBinding .. => none
  | .failure .. => none

namespace Propagation

/-- The token is what some row of a rule program writes or pushes. -/
def IsSource (subscriptions : List Subscription) (token : String) : Prop :=
  ∃ s ∈ subscriptions, ∃ p ∈ s.programs, ∃ row ∈ p.rows, row.source? = some token

/-- Where the value comes from, when the host changes a field of a store: the host gave it, a field of the
store held it, or it is the number denoted by the source of a row, a token that names no field. -/
inductive Origin (subscriptions : List Subscription) (s : Store) (given : Value) : Value → Prop where
  | given : Origin subscriptions s given given
  | held {name v} (before : s.get? name = some v) : Origin subscriptions s given v
  | literal {token n} (source : IsSource subscriptions token) (undeclared : token ∉ s.names)
      (denotes : Machine.literal? token = some n) : Origin subscriptions s given (.number n)

/-- Every value of the fields and of the events comes from somewhere. -/
structure Sourced (subscriptions : List Subscription) (s : Store) (given : Value) (c : Change) : Prop where
  names : c.store.names = s.names
  values : ∀ name v, c.store.get? name = some v → Origin subscriptions s given v
  events : ∀ e ∈ c.journal.toList, ∀ v ∈ e.value?, Origin subscriptions s given v

variable {options : RunOptions} {subscriptions : List Subscription} {s store : Store} {given v : Value}
  {c : Change} {e : JournalEntry} {name target property : String}

namespace Sourced

/-- What a source resolves to comes from where the values of the fields come from, or stands in the rule. -/
theorem of_resolve (h : Sourced subscriptions s given c) {index : Nat} {token : String}
    (source : IsSource subscriptions token) (resolved : Machine.resolve reader c index token = .ok v) :
    Origin subscriptions s given v := by
  unfold Machine.resolve at resolved
  split at resolved
  · rename_i reads
    cases resolved
    exact h.values token _ reads
  · rename_i unread
    split at resolved
    · rename_i n denotes
      cases resolved
      have undeclared : token ∉ s.names := by
        rw [← h.names, ← Store.contains_eq_false_iff]
        exact Option.isSome_eq_false_iff.2 (Option.isNone_iff_eq_none.2 unread)
      exact .literal source undeclared denotes
    · cases resolved

theorem record (h : Sourced subscriptions s given c) (origin : ∀ v ∈ e.value?, Origin subscriptions s given v) :
    Sourced subscriptions s given (c.record e) where
  names := h.names
  values := h.values
  events := by
    intro e' mem
    rw [record_events, List.mem_append, List.mem_singleton] at mem
    rcases mem with old | rfl
    · exact h.events e' old
    · exact origin

theorem enter (h : Sourced subscriptions s given c) (set : c.store.set? name v = some store)
    (origin : Origin subscriptions s given v) : Sourced subscriptions s given (c.enter store name v) where
  names := by rw [enter_store, Store.names_of_set? set, h.names]
  values := by
    intro field w holds
    rw [enter_store, Store.get?_of_set? set] at holds
    split at holds
    · cases holds
      exact origin
    · exact h.values field w holds
  events := by
    intro e mem
    rw [enter_events, List.mem_append, List.mem_singleton] at mem
    rcases mem with old | rfl
    · exact h.events e old
    · rintro w ⟨⟩
      exact origin

theorem push (h : Sourced subscriptions s given c) (origin : Origin subscriptions s given v) :
    Sourced subscriptions s given (c.push target property v).2 := by
  rcases c.push_cases target property v with ⟨registry, -, pushed⟩ | ⟨-, pushed⟩
  · rw [pushed]
    have unrecorded : Sourced subscriptions s given { c with registry } := ⟨h.names, h.values, h.events⟩
    refine unrecorded.record ?_
    rintro w ⟨⟩
    exact origin
  · rw [pushed]
    exact h.record nofun

end Sourced

/-- What a row writes is what its source resolves to. -/
theorem Demanded.origin_of_write (h : Sourced subscriptions s given c)
    (demanded : Demanded options subscriptions c (.write target v)) : Origin subscriptions s given v := by
  obtain ⟨sub, ⟨mem, -⟩, p, ofSub, row, ofP, index, demands⟩ := demanded
  obtain ⟨opcode, -, token, rest, operands, resolved⟩ := Machine.of_demand_write demands
  have source : row.source? = some token := by simp [Row.source?, opcode, operands]
  exact h.of_resolve ⟨sub, mem, p, ofSub, row, ofP, source⟩ resolved

theorem Demanded.origin_of_push (h : Sourced subscriptions s given c)
    (demanded : Demanded options subscriptions c (.push target property v)) :
    Origin subscriptions s given v := by
  obtain ⟨sub, ⟨mem, -⟩, p, ofSub, row, ofP, index, demands⟩ := demanded
  obtain ⟨opcode, -, token, rest, operands, resolved⟩ := Machine.of_demand_push demands
  have source : row.source? = some token := by simp [Row.source?, opcode, operands]
  exact h.of_resolve ⟨sub, mem, p, ofSub, row, ofP, source⟩ resolved

/-- **No step makes a value up.** -/
theorem Step.sourced {a b : Change} (step : Step options subscriptions a b)
    (h : Sourced subscriptions s given a) : Sourced subscriptions s given b := by
  cases step with
  | enter demanded set => exact h.enter set (demanded.origin_of_write h)
  | leave => exact ⟨h.names, h.values, h.events⟩
  | suppress demanded =>
    refine h.record ?_
    rintro w ⟨⟩
    exact demanded.origin_of_write h
  | push demanded => exact h.push (demanded.origin_of_push h)
  | fail => exact h.record nofun

end Propagation

namespace Form

open Propagation

theorem sourced_change {f : Form} {value : Value} : Sourced f.subscriptions f.store value f.change where
  names := rfl
  values := fun _ _ => .held
  events := fun _ mem => absurd mem List.not_mem_nil

/-- **Rules move values and make none up.** Every value that is written, suppressed or pushed in a change, and
every value that a field has after it, is the one given by the host, one that a field held before, or the number
that stands as the source of a row in a rule, as a token that names no field. -/
theorem setValue_moves (f : Form) (name : String) (declared : name ∈ f.store.names) (value : Value) :
    ∃ f' j, f.setValue name value = .ok (f', j) ∧
      (∀ e ∈ j.toList, ∀ v ∈ e.value?, Origin f.subscriptions f.store value v) ∧
      ∀ field v, f'.value? field = some v → Origin f.subscriptions f.store value v := by
  obtain ⟨store, c, set, notified, result⟩ := setValue_course declared value
  have start : Sourced f.subscriptions f.store value (f.change.enter store name value) :=
    sourced_change.enter set .given
  have sourced : Sourced f.subscriptions f.store value c :=
    (steps_of_notifies notified).1.invariant (fun _ _ step => step.sourced) start
  exact ⟨_, _, result, sourced.events, sourced.values⟩

/-- A shelf that keeps a copy of every parcel and a note of the last one, and takes a number for the parcel and
the door from its rule. -/
def courier : Form where
  name := "courier"
  options := { maxSteps := 100 }
  lengthRules := []
  subscriptions :=
    [⟨"shelf", ["parcel"],
      [⟨[⟨"s", ["note", "shelf"]⟩, ⟨"s", ["shelf", "parcel"]⟩, ⟨"s", ["parcel", "1e2"]⟩,
        ⟨"sp", ["door", "sign", "1e2"]⟩]⟩]⟩]
  validators := []
  issues := []
  owner := ⟨1⟩
  store := ⟨[("parcel", .null), ("shelf", .text "007"), ("note", .null)]⟩
  registry := { mounts := [⟨"door", ⟨1⟩, 0, true⟩], sheets := [{}], owners := 1 }

theorem courier_moves :
    "parcel" ∈ courier.store.names ∧
      ((courier.setValue "parcel" (.text "12")).toOption.map fun (_, j) => j.toList.filterMap (·.value?)) =
        some [.text "12", .text "007", .text "12", .number (.ofInt 100), .number (.ofInt 100)] ∧
      ∃ f' j, courier.setValue "parcel" (.text "12") = .ok (f', j) ∧
        (∀ e ∈ j.toList, ∀ v ∈ e.value?, Origin courier.subscriptions courier.store (.text "12") v) ∧
        ∀ field v, f'.value? field = some v → Origin courier.subscriptions courier.store (.text "12") v :=
  ⟨by decide, by decide +kernel, setValue_moves courier "parcel" (by decide) (.text "12")⟩

end Form

end Formulary
