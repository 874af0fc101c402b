import Mathlib.Data.Finset.Card
import Formulary.Form.Basic
import Formulary.Proofs.Journal
import Formulary.Proofs.Propagation.Step

/-!
# Every change comes to an end

The recursion of a change passes through the machine and its host, and no argument of it shrinks.
What shrinks from one write to the next below it is the number of declared fields that are not in
flight (`spare`): the fields in flight are declared and distinct, since a write to one of them is
suppressed. Between two rows of a run nothing but the values has changed, so the runs that are
suspended further up keep their measure, and each of them has its steps left.

`write_writes` is the induction; `Form.setValue_course` reads it off for a change of a form.
-/

namespace Formulary

namespace Propagation

variable {options : RunOptions} {subscriptions : List Subscription} {c c₀ : Change}
  {w : Change → String → Value → WriteOutcome × Change}

/-- How many declared fields are not in flight. -/
def spare (c : Change) : Nat :=
  (c.store.names.toFinset \ c.inFlight.names.toFinset).card

theorem Level.spare_eq (h : Level c₀ c) : spare c = spare c₀ := by
  rw [spare, spare, h.names, h.inFlight]

theorem spare_enter {name : String} {value : Value} {store : Store}
    (set : c.store.set? name value = some store) (free : name ∉ c.inFlight.names) :
    spare (c.enter store name value) < spare c := by
  apply Finset.card_lt_card
  have names : (c.enter store name value).store.names = c.store.names := Store.names_of_set? set
  have marks : (c.enter store name value).inFlight.names = name :: c.inFlight.names := rfl
  rw [names, marks, List.toFinset_cons, Finset.sdiff_insert]
  apply Finset.erase_ssubset
  simp [Store.mem_of_set? set, free]

theorem spare_le_length : spare c ≤ c.store.fields.length := by
  have names : c.store.names.length = c.store.fields.length := List.length_map _
  rw [← names]
  exact (Finset.card_le_card Finset.sdiff_subset).trans (List.toFinset_card_le _)

/-- The host answers every write of the level as its course does. -/
def Answered (options : RunOptions) (subscriptions : List Subscription)
    (w : Change → String → Value → WriteOutcome × Change) (c₀ : Change) : Prop :=
  ∀ c, Level c₀ c → ∀ name value,
    Writes options subscriptions c name value (w c name value).1 (w c name value).2

/-! ## A run ends if the writes of its rows do -/

theorem execute_executes (answered : Answered options subscriptions w c₀) (level : Level c₀ c)
    (r : RunState) (row : Row) :
    Executes options subscriptions r row c
      (Machine.execute (host w) options.relation r.context c r.row row).1
      (Machine.execute (host w) options.relation r.context c r.row row).2 := by
  rw [Machine.execute_eq_settle, demand_host]
  cases demands : Machine.demand reader options.relation r.context c r.row row with
  | answer flow => exact .answer demands
  | write target value => exact .write demands (answered c level target value)
  | push target property value => exact .push demands

theorem loop_runs (answered : Answered options subscriptions w c₀) (p : Program) :
    ∀ budget r c, Level c₀ c → budget = options.maxSteps - r.steps →
      Runs options subscriptions p r c (Machine.loop (host w) options p budget r c).1
        (Machine.loop (host w) options p budget r c).2 := by
  -- the budget is all through what the limit leaves, so it is spent exactly where `Runs.limit` says
  refine Machine.loop_induction (host w) options p ?left ?limit ?failed ?next
  case left =>
    intro budget r c past level left
    rw [Machine.loop_of_left past]
    exact .left past
  case limit =>
    intro r c row due level spent
    rw [Machine.loop_of_limit due]
    exact .limit due (by omega)
  case failed =>
    intro budget r c row e c' due executed level left
    have ran := execute_executes answered level r row
    rw [executed] at ran
    rw [Machine.loop_of_failed due executed]
    exact .failed due (by omega) ran
  case next =>
    intro budget r c row flow c' due executed ih level left
    have ran := execute_executes answered level r row
    rw [executed] at ran
    rw [Machine.loop_of_next due executed]
    exact .next due (by omega) ran
      (ih (level.trans ran.level) (by rw [Machine.steps_advance]; omega))

theorem runPrograms_responds (answered : Answered options subscriptions w c₀) (field : String) :
    ∀ ps index c, Level c₀ c →
      Responds options subscriptions field index ps c
        (runPrograms options (host w) field index ps c) := by
  intro ps
  induction ps with
  | nil => intro index c level; exact .nil
  | cons p ps ih =>
    intro index c level
    have ran := loop_runs answered p _ { context := .propagation } c level rfl
    rw [runPrograms, runProgram, run_eq_loop]
    rcases h : Machine.loop (host w) options p (options.maxSteps - 0) { context := .propagation } c
      with ⟨result, c'⟩
    rw [h] at ran
    have behind := level.trans ran.level
    cases result with
    | error e => exact .failed ran (ih _ _ (behind.trans (.record _ _)))
    | ok r => exact .finished ran (ih _ _ behind)

theorem notify_notifies (answered : Answered options subscriptions w c₀) :
    ∀ ss c, Level c₀ c → Notifies options subscriptions ss c (notify options (host w) ss c) := by
  intro ss
  induction ss with
  | nil => intro c level; exact .nil
  | cons s rest ih =>
    intro c level
    have first := runPrograms_responds answered s.field s.programs 0 c level
    exact .cons first (ih _ (level.trans first.level))

/-! ## A write ends if it has room for the fields not in flight -/

/-- **A write given more room than there are fields to write ends as its course does.** -/
theorem write_writes (room : Nat) : ∀ c name value, spare c < room →
    Writes options subscriptions c name value (write options subscriptions room c name value).1
      (write options subscriptions room c name value).2 := by
  induction room with
  | zero => intro c name value enough; omega
  | succ room ih =>
    intro c name value enough
    by_cases declared : name ∈ c.store.names
    · by_cases busy : name ∈ c.inFlight.names
      · rw [write_of_busy declared busy]
        exact .suppressed declared busy
      · obtain ⟨store, set⟩ := Option.isSome_iff_exists.1 (Store.set?_isSome_iff.2 declared)
        rw [write_of_free set busy]
        have less := spare_enter set busy
        -- a write of a row finds the same fields in flight as this one left, however late it comes
        have answered : Answered options subscriptions (write options subscriptions room)
            (c.enter store name value) := by
          intro c' level name' value'
          exact ih c' name' value' (by rw [level.spare_eq]; omega)
        exact .applied set busy (notify_notifies answered _ _ (.refl _))
    · rw [write_of_undeclared declared]
      exact .unknown declared

/-! ## Depths -/

/-- Every write is recorded with a depth below the number of fields. -/
def Shallow (c : Change) : Prop :=
  ∀ field v depth, .write field v depth ∈ c.journal.toList → depth < c.store.names.length

theorem Shallow.record {e : JournalEntry} (h : Shallow c)
    (below : ∀ depth ∈ e.depth?, depth < c.store.names.length) : Shallow (c.record e) := by
  intro field v depth mem
  rw [Change.record, Journal.toList_record, List.mem_append, List.mem_singleton] at mem
  rcases mem with old | rfl
  · exact h field v depth old
  · exact below depth rfl

theorem Shallow.enter {name : String} {value : Value} {store : Store} (h : Shallow c)
    (stacked : Stacked c) (set : c.store.set? name value = some store)
    (free : name ∉ c.inFlight.names) : Shallow (c.enter store name value) := by
  have names := Store.names_of_set? set
  refine Shallow.record (fun field v depth mem => ?_) fun depth new => ?_
  · change depth < store.names.length
    rw [names]
    exact h field v depth mem
  · cases new
    change c.inFlight.depth < store.names.length
    rw [names]
    exact stacked.depth_lt (Store.mem_of_set? set) free

theorem Shallow.push {target property : String} {value : Value} (h : Shallow c) :
    Shallow (c.push target property value).2 := by
  rcases c.push_cases target property value with ⟨registry, -, pushed⟩ | ⟨-, pushed⟩
  · rw [pushed]
    exact Shallow.record h nofun
  · rw [pushed]
    exact h.record nofun

theorem Step.shallow {a b : Change} (step : Step options subscriptions a b) (stacked : Stacked a)
    (h : Shallow a) : Shallow b := by
  cases step with
  | enter _ set free => exact h.enter stacked set free
  | leave => exact h
  | suppress => exact h.record nofun
  | push => exact h.push
  | fail => exact h.record nofun

end Propagation

namespace Form

open Propagation

variable {f : Form} {name : String}

/-- A change of the form before anything has happened. -/
def change (f : Form) : Change :=
  { store := f.store, registry := f.registry }

theorem stacked_change : Stacked f.change :=
  ⟨List.nodup_nil, List.nil_subset _⟩

theorem shallow_change : Shallow f.change := by
  intro field v depth mem
  cases mem

/-- **A change of a declared field has a course**, and where that ends is what the form becomes. -/
theorem setValue_course (declared : name ∈ f.store.names) (value : Value) :
    ∃ store c, f.store.set? name value = some store ∧
      Notifies f.options f.subscriptions (Subscription.dependents f.subscriptions name)
        (f.change.enter store name value) c ∧
      f.setValue name value =
        .ok ({ f with store := c.store, registry := c.registry }, c.journal) := by
  obtain ⟨store, set⟩ := Option.isSome_iff_exists.1 (Store.set?_isSome_iff.2 declared)
  have free : name ∉ f.change.inFlight.names := List.not_mem_nil
  have room : spare (f.change.enter store name value) < f.store.fields.length :=
    Nat.lt_of_lt_of_le (spare_enter set free) spare_le_length
  have answered : Answered f.options f.subscriptions
      (write f.options f.subscriptions f.store.fields.length) (f.change.enter store name value) := by
    intro c level name' value'
    exact write_writes _ c name' value' (by rw [level.spare_eq]; exact room)
  refine ⟨store, _, set, notify_notifies answered _ _ (.refl _), ?_⟩
  have started : start f.options f.subscriptions f.store f.registry name value =
      (.applied, (notify f.options (host (write f.options f.subscriptions f.store.fields.length))
        (Subscription.dependents f.subscriptions name) (f.change.enter store name value)).leave name) :=
    write_of_free set free
  rw [setValue, if_pos (Store.contains_iff.2 declared), started]
  rfl

/-- What a change comes to is where its course ends. -/
theorem setValue_of_writes {value : Value} {c : Change}
    (course : Writes f.options f.subscriptions f.change name value .applied c) :
    f.setValue name value = .ok ({ f with store := c.store, registry := c.registry }, c.journal) := by
  have declared : name ∈ f.store.names := by
    cases course with
    | applied set _ _ => exact Store.mem_of_set? set
  obtain ⟨store, c', set, notified, result⟩ := setValue_course declared value
  have ends : c = c'.leave name := (course.unique (.applied set List.not_mem_nil notified)).2
  subst ends
  exact result

theorem exists_writes (declared : name ∈ f.store.names) (value : Value) :
    ∃ c, Writes f.options f.subscriptions f.change name value .applied c := by
  obtain ⟨store, c, set, notified, -⟩ := setValue_course declared value
  exact ⟨c.leave name, .applied set List.not_mem_nil notified⟩

/-- A change of an undeclared field is refused. -/
theorem setValue_of_undeclared (undeclared : name ∉ f.store.names) (value : Value) :
    f.setValue name value = .error (.unknownField name) := by
  simp [setValue, Store.contains_eq_false_iff.2 undeclared]

/-- What happens below the host's own write is a sequence of steps, at the end of which the host's
own write alone is in flight. -/
theorem steps_of_notifies {store : Store} {value : Value} {c : Change}
    (notified : Notifies f.options f.subscriptions (Subscription.dependents f.subscriptions name)
      (f.change.enter store name value) c) :
    Steps f.options f.subscriptions (f.change.enter store name value) c ∧
      c.inFlight.names = [name] :=
  ⟨notified.steps fun _ mem => notified_enter mem, by rw [notified.level.inFlight]; rfl⟩

/-- **Propagation always ends.** The recursion a change of a declared field sets off, in which
nothing bounds how deep writes nest or how often a program jumps backwards, has exactly one end; the
form and the journal are those of that end, and every write in the journal has a depth below the
number of fields. -/
theorem setValue_terminates (f : Form) (name : String) (declared : name ∈ f.store.names)
    (value : Value) :
    ∃ c, Writes f.options f.subscriptions f.change name value .applied c ∧
      (∀ outcome c', Writes f.options f.subscriptions f.change name value outcome c' →
        outcome = .applied ∧ c' = c) ∧
      f.setValue name value =
        .ok ({ f with store := c.store, registry := c.registry }, c.journal) ∧
      ∀ field v depth, .write field v depth ∈ c.journal.toList → depth < f.store.names.length := by
  obtain ⟨store, c, set, notified, result⟩ := setValue_course declared value
  have course : Writes f.options f.subscriptions f.change name value .applied (c.leave name) :=
    .applied set List.not_mem_nil notified
  refine ⟨c.leave name, course, fun outcome c' other => other.unique course, result, ?_⟩
  have kept : Stacked c ∧ Shallow c :=
    Steps.invariant (P := fun c => Stacked c ∧ Shallow c) (steps_of_notifies notified).1
      (fun a b step h => ⟨step.stacked h.1, step.shallow h.1 h.2⟩)
      ⟨stacked_change.enter set List.not_mem_nil,
        shallow_change.enter stacked_change set List.not_mem_nil⟩
  have names : c.store.names = f.store.names := course.level.names
  rw [← names]
  exact kept.2

/-- Two fields that copy each other, each after a program that jumps on the spot for ever, and push
what they copied: one to a panel that is mounted, the other to a lamp that is not. -/
def mirrors : Form where
  name := "mirrors"
  options := { maxSteps := 1000 }
  lengthRules := []
  subscriptions :=
    [⟨"left", ["right"], [⟨[⟨"jrgt", ["0", "0", "0"]⟩]⟩,
        ⟨[⟨"s", ["left", "right"]⟩, ⟨"sp", ["lamp", "lit", "left"]⟩]⟩]⟩,
      ⟨"right", ["left"], [⟨[⟨"jrgt", ["0", "0", "0"]⟩]⟩,
        ⟨[⟨"s", ["right", "left"]⟩, ⟨"sp", ["panel", "shown", "right"]⟩]⟩]⟩]
  validators := []
  issues := []
  owner := ⟨1⟩
  store := ⟨[("left", .null), ("right", .null)]⟩
  registry := { mounts := [⟨"panel", ⟨1⟩, 0, true⟩], sheets := [{}], owners := 1 }

theorem mirrors_terminates :
    "left" ∈ mirrors.store.names ∧
      ∃ c, Writes mirrors.options mirrors.subscriptions mirrors.change "left" (.text "x") .applied c ∧
        (∀ outcome c', Writes mirrors.options mirrors.subscriptions mirrors.change "left" (.text "x")
          outcome c' → outcome = .applied ∧ c' = c) ∧
        mirrors.setValue "left" (.text "x") =
          .ok ({ mirrors with store := c.store, registry := c.registry }, c.journal) ∧
        ∀ field v depth, .write field v depth ∈ c.journal.toList → depth < 2 :=
  ⟨by decide, setValue_terminates mirrors "left" (by decide) (.text "x")⟩

end Form

end Formulary
