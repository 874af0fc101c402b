import Formulary.Proofs.Propagation.Termination
import Formulary.Proofs.Rule.Truncation

/-!
# What is in flight is restored

A field goes in flight before its dependents are notified and leaves afterwards, and in between run programs
that may write any fields, fail, or be stopped. What no request of a program changes, no run of it changes
(`Machine.kept_of_after`, `Machine.kept_of_loop`); so a write that finds what nests in it restored restores what was in
flight before it, since the mark it then clears is the one it has put (`Propagation.write_inFlight`).
`Form.restores_inFlight` says it of the rows of all runs and of whole changes.
-/

namespace Formulary

namespace Machine

variable {σ α : Type} {host : Host σ} {f : σ → α} {relation : Relation} {context : Context} {s s' : σ}
  {r r' : RunState} {p : Program}

/-- Requests leave a part of the host as it is. -/
structure Untouched (host : Host σ) (f : σ → α) : Prop where
  write : ∀ s target value, f (host.write s target value).2 = f s
  push : ∀ s target property value, f (host.push s target property value).2 = f s

/-- A row leaves it as it is, whether it fails or not. -/
theorem kept_of_execute (untouched : Untouched host f) {index : Nat} {row : Row} {answer : Except RuleError Flow}
    (executed : execute host relation context s index row = (answer, s')) : f s' = f s := by
  rw [execute_eq_settle] at executed
  cases demands : demand host relation context s index row with
  | answer flow =>
    rw [demands] at executed
    cases executed
    rfl
  | write target value =>
    rw [demands] at executed
    cases executed
    exact untouched.write s target value
  | push target property value =>
    rw [demands] at executed
    cases executed
    exact untouched.push s target property value

/-- It is the same behind any number of rows. -/
theorem kept_of_after (untouched : Untouched host f) : ∀ n r s,
    after host relation p n r s = some (r', s') → f s' = f s := by
  intro n
  induction n with
  | zero =>
    intro r s ahead
    cases ahead
    rfl
  | succ n ih =>
    intro r s ahead
    obtain ⟨row, flow, t, -, executed, ahead⟩ := of_after_succ ahead
    rw [ih _ _ ahead, kept_of_execute untouched executed]

/-- And at the end of a run, however it ends. -/
theorem kept_of_loop {options : RunOptions} (untouched : Untouched host f) : ∀ budget r s,
    f (loop host options p budget r s).2 = f s := by
  refine loop_induction host options p ?left ?limit ?failed ?next
  case left =>
    intro budget r s past
    rw [loop_of_left past]
  case limit =>
    intro r s row due
    rw [loop_of_limit due]
  case failed =>
    intro budget r s row e t due executed
    rw [loop_of_failed due executed]
    exact kept_of_execute untouched executed
  case next =>
    intro budget r s row flow t due executed ih
    rw [loop_of_next due executed, ih, kept_of_execute untouched executed]

end Machine

namespace Propagation

variable {options : RunOptions} {subscriptions : List Subscription}
  {w : Change → String → Value → WriteOutcome × Change}

/-- Writing leaves in flight what was in flight before. -/
def KeepsInFlight (w : Change → String → Value → WriteOutcome × Change) : Prop :=
  ∀ c name value, (w c name value).2.inFlight = c.inFlight

theorem KeepsInFlight.untouched (keeps : KeepsInFlight w) : Machine.Untouched (host w) Change.inFlight where
  write := keeps
  push _ _ _ _ := push_inFlight

/-! ## What a write sets off -/

theorem runPrograms_inFlight (keeps : KeepsInFlight w) (field : String) : ∀ ps index c,
    (runPrograms options (host w) field index ps c).inFlight = c.inFlight := by
  intro ps
  induction ps with
  | nil => intro index c; rfl
  | cons p ps ih =>
    intro index c
    have ran : (Machine.run (host w) options p { context := .propagation } c).2.inFlight = c.inFlight :=
      Machine.kept_of_loop keeps.untouched _ _ c
    rw [runPrograms, ih, runProgram]
    -- a failure is recorded, which is no matter of what is in flight
    rcases ended : Machine.run (host w) options p { context := .propagation } c with ⟨result, c'⟩
    rw [ended] at ran
    cases result with
    | ok r => exact ran
    | error e => exact ran

theorem notify_inFlight (keeps : KeepsInFlight w) : ∀ ss c,
    (notify options (host w) ss c).inFlight = c.inFlight := by
  intro ss
  induction ss with
  | nil => intro c; rfl
  | cons s rest ih =>
    intro c
    rw [notify, ih, runPrograms_inFlight keeps]

/-- **A write leaves in flight what was in flight before it**, in this order, whatever its answer and whatever
room there is for what nests in it. -/
theorem write_inFlight (room : Nat) : KeepsInFlight (write options subscriptions room) := by
  induction room with
  | zero =>
    intro c name value
    rfl
  | succ room ih =>
    intro c name value
    by_cases declared : name ∈ c.store.names
    · by_cases busy : name ∈ c.inFlight.names
      · rw [write_of_busy declared busy]
        rfl
      · obtain ⟨store, set⟩ := Option.isSome_iff_exists.1 (Store.set?_isSome_iff.2 declared)
        rw [write_of_free set busy]
        -- the mark put by this write is the innermost one again, so it is the one that is cleared
        have innermost : (notify options (host (write options subscriptions room))
            (Subscription.dependents subscriptions name) (c.enter store name value)).inFlight =
              ⟨name :: c.inFlight.names⟩ := by
          rw [notify_inFlight ih]
          rfl
        rw [Change.leave, innermost]
        simp [InFlight.leave]
    · rw [write_of_undeclared declared]

end Propagation

namespace Form

open Propagation

/-- **What is in flight is restored on every path.** Whatever is in flight when a field is written, the write
comes to an end, with an answer, and leaves in flight what was in flight before, in this order; that end is what
is computed given room for all the fields. A run of any program sees the same in flight before and behind each
of its rows, one that fails among them, and at its end, however it ends. And when a change of the form is over,
nothing is in flight. -/
theorem restores_inFlight (f : Form) :
    (∀ c name value, ∃ outcome c',
      Writes f.options f.subscriptions c name value outcome c' ∧ c'.inFlight = c.inFlight ∧
        ∀ room, c.store.fields.length < room →
          write f.options f.subscriptions room c name value = (outcome, c')) ∧
    (∀ room p r c,
      (∀ n r' c',
        Machine.after (host (write f.options f.subscriptions room)) f.options.relation p n r c =
          some (r', c') →
        c'.inFlight = c.inFlight ∧
          ∀ row, p.rows[r'.row]? = some row →
            (Machine.execute (host (write f.options f.subscriptions room)) f.options.relation r'.context c'
              r'.row row).2.inFlight = c.inFlight) ∧
      (Machine.run (host (write f.options f.subscriptions room)) f.options p r c).2.inFlight = c.inFlight) ∧
    ∀ name value, ∃ outcome c,
      start f.options f.subscriptions f.store f.registry name value = (outcome, c) ∧
        c.inFlight.isEmpty = true ∧
        ∀ g j, f.setValue name value = .ok (g, j) →
          g.store = c.store ∧ g.registry = c.registry ∧ j = c.journal := by
  refine ⟨?_, ?_, ?_⟩
  · intro c name value
    have course : ∀ room, c.store.fields.length < room →
        Writes f.options f.subscriptions c name value
          (write f.options f.subscriptions room c name value).1
          (write f.options f.subscriptions room c name value).2 :=
      fun room enough => write_writes room c name value (Nat.lt_of_le_of_lt spare_le_length enough)
    have ends := course _ (Nat.lt_succ_self _)
    refine ⟨_, _, ends, ends.level.inFlight, fun room enough => ?_⟩
    obtain ⟨outcome, change⟩ := (course room enough).unique ends
    exact Prod.ext outcome change
  · intro room p r c
    have untouched := (@write_inFlight f.options f.subscriptions room).untouched
    refine ⟨fun n r' c' ahead => ?_, Machine.kept_of_loop untouched _ _ c⟩
    have before := Machine.kept_of_after untouched n r c ahead
    exact ⟨before, fun row due => (Machine.kept_of_execute untouched rfl).trans before⟩
  · intro name value
    have restored : (start f.options f.subscriptions f.store f.registry name value).2.inFlight = {} :=
      write_inFlight _ _ name value
    rcases started : start f.options f.subscriptions f.store f.registry name value with ⟨outcome, c⟩
    rw [started] at restored
    refine ⟨outcome, c, rfl, ?_, ?_⟩
    · rw [restored]
      rfl
    · intro g j set
      rw [setValue, started] at set
      split at set
      · cases set
        exact ⟨rfl, rfl, rfl⟩
      · cases set

end Form

end Formulary
