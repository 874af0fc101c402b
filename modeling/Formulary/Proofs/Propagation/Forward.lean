import Formulary.Proofs.Propagation.Limit
import Formulary.Proofs.Rule.Forward

/-!
# Forms whose programs only jump forward

In a change the host of a run is the change itself, and a write of the run sets off other runs that may
change any field before it goes on. `Machine.inTime_run` asks nothing of the host, so it holds of all
of these runs. A step of a change that records a failure records that of such a run (`Step.inTime`), and what
every step keeps holds of the whole journal.
-/

namespace Formulary

namespace Propagation

variable {options : RunOptions} {subscriptions : List Subscription}

/-- A run of a program that only jumps forward is not stopped by a limit of at least its length. -/
theorem Runs.inTime {p : Program} {context : Context} {c c' : Change} {a : Except RuleError RunState}
    (ran : Runs options subscriptions p { context } c a c') (forward : p.Forward)
    (enough : p.length ≤ options.maxSteps) : Machine.InTime a := by
  obtain ⟨room, computed⟩ := ran.computed
  have inTime : Machine.InTime (Machine.loop (host (write options subscriptions room)) options p
      (options.maxSteps - 0) { context } c).1 := Machine.inTime_run forward enough
  rw [computed room (Nat.le_refl room)] at inTime
  exact inTime

/-- A step records no failure because of the limit if no program can be stopped by it. -/
theorem Step.inTime {a b : Change} (step : Step options subscriptions a b)
    (forward : ∀ s ∈ subscriptions, ∀ p ∈ s.programs, p.Forward ∧ p.length ≤ options.maxSteps)
    (h : a.journal.InTime) : b.journal.InTime := by
  cases step with
  | enter => exact h.record fun field program limit => by simp
  | leave => exact h
  | suppress => exact h.record fun field program limit => by simp
  | @push target property value demanded =>
    rcases a.push_cases target property value with ⟨registry, -, pushed⟩ | ⟨-, pushed⟩
    · rw [pushed]
      exact h.record fun field program limit => by simp
    · rw [pushed]
      exact h.record fun field program limit => by simp
  | @fail start s index p e notified has ran =>
    obtain ⟨onward, enough⟩ := forward s notified.mem p (List.mem_of_getElem? has)
    apply h.record
    intro field program limit stopped
    cases stopped
    exact ran.inTime onward enough limit rfl

end Propagation

namespace Form

open Propagation

/-- Every journal of a form whose programs only jump forward is free of stopped runs. -/
theorem inTime_of_setValue {f f' : Form} {j : Journal} {name : String} {value : Value}
    (forward : ∀ s ∈ f.subscriptions, ∀ p ∈ s.programs, p.Forward ∧ p.length ≤ f.options.maxSteps)
    (changed : f.setValue name value = .ok (f', j)) : j.InTime := by
  obtain ⟨store, c, set, notified, result⟩ := setValue_course (declared_of_setValue changed) value
  rw [result] at changed
  cases changed
  have before : (f.change.enter store name value).journal.InTime := by
    apply Journal.InTime.record
    · intro field program error mem
      cases mem
    · simp
  exact (steps_of_notifies notified).1.invariant (fun _ _ step => step.inTime forward) before

/-- **Programs that only jump forward are not stopped by the step limit.** On any host and in any context a
fresh run of such a program, under a limit that is no less than its number of rows, executes rows in the order
of the program, none twice, and is not stopped. So if all programs of a form are of this kind and its limit is
no less than the length of any, no journal of a change tells of one that was stopped, however deep the runs
nest. -/
theorem forward_in_time :
    (∀ p : Program, p.Forward → ∀ {σ : Type} (host : Host σ) (options : RunOptions) (context : Context)
      (s : σ), p.length ≤ options.maxSteps →
        (Machine.runPath host options p { context } s).Pairwise (· < ·) ∧
        (Machine.runPath host options p { context } s).Nodup ∧
        (Machine.runPath host options p { context } s).length ≤ p.length ∧
        Machine.InTime (Machine.run host options p { context } s).1) ∧
    ∀ f : Form, (∀ s ∈ f.subscriptions, ∀ p ∈ s.programs, p.Forward ∧ p.length ≤ f.options.maxSteps) →
      ∀ name value,
        (name ∈ f.store.names → ∃ f' j, f.setValue name value = .ok (f', j) ∧ j.InTime) ∧
        ∀ f' j, f.setValue name value = .ok (f', j) → j.InTime := by
  constructor
  · intro p forward σ host options context s enough
    have ordered : (Machine.runPath host options p { context } s).Pairwise (· < ·) :=
      (Machine.pairwise_path forward _ _ s).1
    exact ⟨ordered, ordered.imp Nat.ne_of_lt, Machine.length_path_of_forward forward,
      Machine.inTime_run forward enough⟩
  · intro f forward name value
    refine ⟨fun declared => ?_, fun f' j => inTime_of_setValue forward⟩
    obtain ⟨f', j, changed⟩ := exists_setValue declared value
    exact ⟨f', j, changed, inTime_of_setValue forward changed⟩

/-- A gun that follows a whistle, with an offset far off and one that is none, and a flag that follows the gun
and writes back. -/
def regatta : FormDefinition where
  fields :=
    [{ name := "whistle" },
     { name := "gun", dependencies := some ["whistle"],
       programs := some ["s gun whistle;jrgt 2 1 1e300;ring", "jrgt 1 1 -1.5"] },
     { name := "flag", dependencies := some ["gun"],
       programs := some ["s whistle gun;s flag gun;jrgt 1 1 1"] }]

theorem regatta_in_time :
    let p : Program := ⟨[⟨"s", ["gun", "whistle"]⟩, ⟨"jrgt", ["2", "1", "1e300"]⟩, ⟨"ring", []⟩]⟩
    let bench : Bench := { fields := .ofList [("whistle", .text "x"), ("gun", .null)] }
    let f := assemble regatta ⟨3, .greater⟩
    p.Forward ∧ p.length ≤ 3 ∧
      Machine.runPath Bench.host ⟨3, .greater⟩ p { context := .propagation } bench = [0, 1] ∧
      Machine.InTime (Machine.run Bench.host ⟨3, .greater⟩ p { context := .propagation } bench).1 ∧
      (∀ s ∈ f.subscriptions, ∀ p ∈ s.programs, p.Forward ∧ p.length ≤ f.options.maxSteps) ∧
      ∃ f' j, f.setValue "whistle" (.text "x") = .ok (f', j) ∧ j.InTime ∧
        j.failures = [.failure "gun" 1 (.invalidOffset 0 "-1.5")] := by
  intro p bench f
  have onward : p.Forward := by decide +kernel
  have forward : ∀ s ∈ f.subscriptions, ∀ p ∈ s.programs, p.Forward ∧ p.length ≤ f.options.maxSteps := by
    decide +kernel
  obtain ⟨-, -, -, inTime⟩ :=
    forward_in_time.1 p onward Bench.host ⟨3, .greater⟩ .propagation bench (by decide)
  obtain ⟨f', j, changed, told⟩ := (forward_in_time.2 f forward "whistle" (.text "x")).1 (by decide +kernel)
  have failures : (f.setValue "whistle" (.text "x")).map (·.2.failures) =
      .ok [.failure "gun" 1 (.invalidOffset 0 "-1.5")] := by
    decide +kernel
  rw [changed] at failures
  exact ⟨onward, by decide, by decide +kernel, inTime, forward, f', j, changed, told, Except.ok.inj failures⟩

end Form

end Formulary
