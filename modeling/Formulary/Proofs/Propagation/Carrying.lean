import Mathlib.Data.List.Chain
import Formulary.Proofs.Propagation.Acyclic
import Formulary.Proofs.Propagation.Notification

/-!
# Carrying a value from field to field

Where every rule copies a field to another and no field has two rules, nothing can go wrong: each row asks
for a write of what the innermost field in flight holds (`Demanded.of_copying`), and no program fails
(`Runs.of_copy`). The fields in flight are a walk from the field changed, and as every field has one source
at most, a walk without repetition is the shortest one (`distance_of_chain`) and only the field changed can
be met again (`Carried.root_of_busy`). `surplus` counts the writes that arrive at a field against those that
arrive at its source; a write restores it (`restores`), so every field reached is written as often as its
source, which is once (`Carried.countP_writes`).
-/

namespace Formulary

/-! ## Distances -/

/-- A walk of so many edges. -/
inductive Walk {α : Type} (R : α → α → Prop) : Nat → α → α → Prop where
  | here {a} : Walk R 0 a a
  | further {n a b c} (walk : Walk R n a b) (edge : R b c) : Walk R (n + 1) a c

/-- The shortest walk has so many edges. -/
structure Distance {α : Type} (R : α → α → Prop) (a b : α) (n : Nat) : Prop where
  walk : Walk R n a b
  shortest : ∀ m, Walk R m a b → n ≤ m

/-- Every element has one source at most. -/
def SingleSource {α : Type} (R : α → α → Prop) : Prop :=
  ∀ a a' b, R a b → R a' b → a = a'

section

variable {α : Type} {R : α → α → Prop} {a b : α} {n : Nat}

theorem Walk.reflTransGen (h : Walk R n a b) : Relation.ReflTransGen R a b := by
  induction h with
  | here => exact .refl
  | further _ edge ih => exact ih.tail edge

/-- **A chain without repetition is a shortest walk**, if every element has one source at most: all walks to
its end follow it backwards. -/
theorem distance_of_chain (single : SingleSource R) {rest : List α}
    (chained : (b :: rest).IsChain fun inner outer => R outer inner) (distinct : (b :: rest).Nodup)
    (rooted : (b :: rest).getLast? = some a) : Distance R a b rest.length := by
  constructor
  · induction rest generalizing b with
    | nil =>
      cases rooted
      exact .here
    | cons o rest ih =>
      obtain ⟨edge, chained⟩ := List.isChain_cons_cons.1 chained
      exact .further (ih chained (List.nodup_cons.1 distinct).2 (by simpa using rooted)) edge
  · induction rest generalizing b with
    | nil => exact fun m _ => Nat.zero_le m
    | cons o rest ih =>
      obtain ⟨edge, chained⟩ := List.isChain_cons_cons.1 chained
      obtain ⟨apart, distinct⟩ := List.nodup_cons.1 distinct
      have rooted : (o :: rest).getLast? = some a := by simpa using rooted
      intro m walk
      cases walk with
      | here => exact (apart (List.mem_of_getLast? rooted)).elim
      | further walk edge' =>
        rw [single _ _ _ edge' edge] at walk
        exact Nat.succ_le_succ (ih chained distinct rooted _ walk)

/-- Where the head of a chain leads back into it, it leads to the last element. -/
theorem getLast?_of_edge (single : SingleSource R) {inner : α} {rest : List α}
    (chained : (inner :: rest).IsChain fun inner outer => R outer inner) (distinct : (inner :: rest).Nodup)
    (edge : R inner b) (mem : b ∈ inner :: rest) : (inner :: rest).getLast? = some b := by
  obtain ⟨before, after, split⟩ := List.append_of_mem mem
  cases after with
  | nil => rw [split, List.getLast?_concat]
  | cons o after =>
    -- the element further out than `b` leads to it as well, so it is the head
    rw [split] at chained distinct
    have outer : R o b := (List.isChain_cons_cons.1 chained.right_of_append).1
    have same : o = inner := single _ _ _ outer edge
    subst same
    cases before with
    | nil =>
      cases split
      simp at distinct
    | cons x before =>
      cases split
      simp at distinct

end

/-! ## Rules that copy -/

namespace JournalEntry

/-- The event is a suppressed write of the field. -/
def suppresses (e : JournalEntry) (name : String) : Bool :=
  match e with
  | .suppressed field _ => field == name
  | _ => false

/-- The event is a suppressed write. -/
def isSuppressed : JournalEntry → Bool
  | .suppressed .. => true
  | _ => false

end JournalEntry

/-- The rule that copies a field to another. -/
def Subscription.copy (target source : String) : Subscription :=
  ⟨target, [source], [⟨[⟨"s", [target, source]⟩]⟩]⟩

namespace Propagation

variable {options : RunOptions} {subscriptions : List Subscription} {names : List String}
  {source target root : String} {v : Value}

/-- Every rule copies a field to another, and no field has two. -/
structure Copying (names : List String) (subscriptions : List Subscription) : Prop where
  distinct : (subscriptions.map (·.field)).Nodup
  rules : ∀ s ∈ subscriptions, ∃ target ∈ names, ∃ source ∈ names, s = .copy target source

namespace Copying

theorem leads_iff (copying : Copying names subscriptions) :
    Leads subscriptions source target ↔ .copy target source ∈ subscriptions := by
  constructor
  · rintro ⟨s, mem, depends, p, ofS, row, ofP, sets⟩
    obtain ⟨target', -, source', -, rfl⟩ := copying.rules s mem
    cases List.mem_singleton.1 ofS
    cases List.mem_singleton.1 ofP
    have sameSource : source = source' := by simpa [Subscription.copy, Subscription.dependsOn] using depends
    have sameTarget : target' = target := by simpa using sets.target
    rw [sameSource, ← sameTarget]
    exact mem
  · intro mem
    refine ⟨_, mem, by simp [Subscription.copy, Subscription.dependsOn], _, List.mem_singleton_self _, _,
      List.mem_singleton_self _, rfl, rfl⟩

theorem singleSource (copying : Copying names subscriptions) : SingleSource (Leads subscriptions) := by
  intro source source' target leads leads'
  have same := List.inj_on_of_nodup_map copying.distinct (copying.leads_iff.1 leads)
    (copying.leads_iff.1 leads') rfl
  simpa [Subscription.copy] using same

end Copying

/-- A row asks for a write of what the innermost field in flight holds. -/
theorem Demanded.of_copying {c : Change} (copying : Copying names subscriptions) (stacked : Stacked c)
    (demanded : Demanded options subscriptions c (.write target v)) :
    ∃ inner outer, c.inFlight.names = inner :: outer ∧ Leads subscriptions inner target ∧
      c.store.get? inner = some v := by
  obtain ⟨s, ⟨mem, inner, innermost, depends⟩, p, ofS, row, ofP, index, demands⟩ := demanded
  obtain ⟨target', -, source, -, rfl⟩ := copying.rules s mem
  cases List.mem_singleton.1 ofS
  cases List.mem_singleton.1 ofP
  obtain ⟨outer, nested⟩ := List.head?_eq_some_iff.1 innermost
  have sameSource : inner = source := by simpa [Subscription.copy, Subscription.dependsOn] using depends
  subst sameSource
  have declared : inner ∈ c.store.names := stacked.declared (by rw [nested]; exact List.mem_cons_self)
  obtain ⟨w, reads⟩ := Option.isSome_iff_exists.1 (Store.contains_iff.2 declared)
  have asks := (Machine.demand_set reads).symm.trans demands
  cases asks
  exact ⟨inner, outer, nested, copying.leads_iff.2 mem, reads⟩

theorem Demanded.not_push_of_copying {c : Change} {property : String}
    (copying : Copying names subscriptions) :
    ¬ Demanded options subscriptions c (.push target property v) := by
  rintro ⟨s, ⟨mem, -⟩, p, ofS, row, ofP, index, demands⟩
  obtain ⟨target', -, source', -, rfl⟩ := copying.rules s mem
  cases List.mem_singleton.1 ofS
  cases List.mem_singleton.1 ofP
  obtain ⟨opcode, -⟩ := Machine.of_demand_push demands
  cases opcode

/-- A row that copies writes its target, and is answered. -/
theorem Executes.of_copy {r : RunState} {c c' : Change} {f : Except RuleError Flow}
    (h : Executes options subscriptions r ⟨"s", [target, source]⟩ c f c')
    (ofContext : r.context = .propagation) (reads : c.store.get? source = some v)
    (declared : target ∈ c.store.names) :
    f = .ok .next ∧ ∃ o, Writes options subscriptions c target v o c' := by
  have demand : Machine.demand reader options.relation r.context c r.row ⟨"s", [target, source]⟩ =
      .write target v := by
    rw [ofContext]
    exact Machine.demand_set reads
  cases h with
  | answer demands => rw [demand] at demands; cases demands
  | push demands => rw [demand] at demands; cases demands
  | write demands written =>
    rw [demand] at demands
    cases demands
    refine ⟨?_, _, written⟩
    cases written with
    | unknown undeclared => exact (undeclared declared).elim
    | suppressed => rfl
    | applied => rfl

/-- **A program that copies does not fail**, and writes once. -/
theorem Runs.of_copy {c c' : Change} {a : Except RuleError RunState}
    (h : Runs options subscriptions ⟨[⟨"s", [target, source]⟩]⟩ { context := .propagation } c a c')
    (one : 1 ≤ options.maxSteps) (reads : c.store.get? source = some v)
    (declared : target ∈ c.store.names) :
    (∃ r, a = .ok r) ∧ ∃ o, Writes options subscriptions c target v o c' := by
  cases h with
  | left past => cases past
  | limit _ spent => exact absurd spent (Nat.not_le_of_lt one)
  | failed due _ executed =>
    cases due
    cases (executed.of_copy rfl reads declared).1
  | next due _ executed others =>
    cases due
    obtain ⟨flow, written⟩ := executed.of_copy rfl reads declared
    cases flow
    cases others with
    | left => exact ⟨⟨_, rfl⟩, written⟩
    | limit due => cases due
    | failed due => cases due
    | next due => cases due

/-! ## What a change carries along -/

/-- An event of a change that carries a value from a field: the value arrives at a field as many writes deep
as it is far, or is kept off the field it comes from, which then lies on a cycle. -/
inductive Carries (subscriptions : List Subscription) (root : String) (v : Value) : JournalEntry → Prop where
  | write {field depth} (far : Distance (Leads subscriptions) root field depth) :
      Carries subscriptions root v (.write field v depth)
  | suppressed (cyclic : Cyclic subscriptions root) : Carries subscriptions root v (.suppressed root v)

/-- What holds between the steps of a change that carries a value from a field. -/
structure Carried (names : List String) (subscriptions : List Subscription) (root : String) (v : Value)
    (c : Change) : Prop where
  names : c.store.names = names
  stacked : Stacked c
  held : Held root v c
  chained : c.inFlight.names.IsChain fun inner outer => Leads subscriptions outer inner
  busy : ∀ field ∈ c.inFlight.names, c.store.get? field = some v
  written : ∀ field w depth, .write field w depth ∈ c.journal.toList → c.store.get? field = some v
  events : ∀ e ∈ c.journal.toList, Carries subscriptions root v e

namespace Carried

variable {c : Change} {field : String} {store : Store}

/-- A write of a row arrives as deep as its field is far. -/
theorem distance (h : Carried names subscriptions root v c) (copying : Copying names subscriptions)
    {inner : String} {outer : List String} (nested : c.inFlight.names = inner :: outer)
    (leads : Leads subscriptions inner field) (free : field ∉ c.inFlight.names) :
    Distance (Leads subscriptions) root field c.inFlight.names.length := by
  have chained := h.chained
  have distinct := h.stacked.distinct
  have rooted := h.held.outermost
  rw [nested] at chained distinct rooted free ⊢
  apply distance_of_chain copying.singleSource
  · exact List.isChain_cons_cons.2 ⟨leads, chained⟩
  · exact List.nodup_cons.2 ⟨free, distinct⟩
  · rw [List.getLast?_cons_cons]
    exact rooted

/-- **Only the field the value comes from is met again**, and then it lies on a cycle. -/
theorem root_of_busy (h : Carried names subscriptions root v c) (copying : Copying names subscriptions)
    {inner : String} {outer : List String} (nested : c.inFlight.names = inner :: outer)
    (leads : Leads subscriptions inner field) (busy : field ∈ c.inFlight.names) :
    field = root ∧ Cyclic subscriptions root := by
  have chained := h.chained
  have distinct := h.stacked.distinct
  have rooted := h.held.outermost
  rw [nested] at chained distinct rooted busy
  have last := getLast?_of_edge copying.singleSource chained distinct leads busy
  rw [rooted] at last
  cases last
  have there := (distance_of_chain copying.singleSource chained distinct rooted).walk.reflTransGen
  exact ⟨rfl, .tail' there leads⟩

theorem enter (h : Carried names subscriptions root v c)
    (stacked : Stacked (c.enter store field v)) (held : Held root v (c.enter store field v))
    (set : c.store.set? field v = some store)
    (chained : (field :: c.inFlight.names).IsChain fun inner outer => Leads subscriptions outer inner)
    (far : Distance (Leads subscriptions) root field c.inFlight.names.length) :
    Carried names subscriptions root v (c.enter store field v) where
  names := (Store.names_of_set? set).trans h.names
  stacked := stacked
  held := held
  chained := chained
  busy := by
    intro other mem
    rw [enter_names, List.mem_cons] at mem
    rw [enter_store, Store.get?_of_set? set]
    split
    · rfl
    · exact h.busy other (mem.resolve_left ‹_›)
  written := by
    intro other w depth mem
    rw [enter_events, List.mem_append, List.mem_singleton] at mem
    rw [enter_store, Store.get?_of_set? set]
    split
    · rfl
    · rename_i differs
      rcases mem with old | new
      · exact h.written other w depth old
      · cases new
        exact (differs rfl).elim
  events := by
    intro e mem
    rw [enter_events, List.mem_append, List.mem_singleton] at mem
    rcases mem with old | rfl
    · exact h.events e old
    · exact .write far

end Carried

theorem Step.carried {a b : Change} (copying : Copying names subscriptions) (one : 1 ≤ options.maxSteps)
    (step : Step options subscriptions a b) (h : Carried names subscriptions root v a) :
    Carried names subscriptions root v b := by
  have stacked := step.stacked h.stacked
  have held := step.held h.held
  cases step with
  | enter demanded set free =>
    obtain ⟨inner, outer, nested, leads, reads⟩ := demanded.of_copying copying h.stacked
    have carried : a.store.get? inner = some v := h.busy inner (by rw [nested]; exact List.mem_cons_self)
    cases reads.symm.trans carried
    apply h.enter stacked held set
    · rw [nested]
      exact List.isChain_cons_cons.2 ⟨leads, nested ▸ h.chained⟩
    · exact h.distance copying nested leads free
  | leave nested =>
    have chained := h.chained
    have busy := h.busy
    rw [nested] at chained busy
    refine ⟨h.names, stacked, held, ?_, ?_, h.written, h.events⟩
    · rw [leave_names nested]
      exact (List.isChain_cons_cons.1 chained).2
    · rw [leave_names nested]
      exact fun field mem => busy field (List.mem_cons_of_mem _ mem)
  | suppress demanded declared busy =>
    obtain ⟨inner, outer, nested, leads, reads⟩ := demanded.of_copying copying h.stacked
    have carried : a.store.get? inner = some v := h.busy inner (by rw [nested]; exact List.mem_cons_self)
    cases reads.symm.trans carried
    obtain ⟨rfl, cyclic⟩ := h.root_of_busy copying nested leads busy
    refine ⟨h.names, stacked, held, h.chained, h.busy, ?_, ?_⟩
    · intro field w depth mem
      rw [record_events, List.mem_append, List.mem_singleton] at mem
      rcases mem with old | new
      · exact h.written field w depth old
      · cases new
    · intro e mem
      rw [record_events, List.mem_append, List.mem_singleton] at mem
      rcases mem with old | rfl
      · exact h.events e old
      · exact .suppressed cyclic
  | push demanded => exact (demanded.not_push_of_copying copying).elim
  | fail notified has ran =>
    obtain ⟨target, targetDeclared, source, sourceDeclared, rfl⟩ := copying.rules _ notified.mem
    cases List.mem_singleton.1 (List.mem_of_getElem? has)
    have declared := ran.level.names.symm.trans h.names
    rw [← declared] at targetDeclared sourceDeclared
    obtain ⟨w, reads⟩ := Option.isSome_iff_exists.1 (Store.contains_iff.2 sourceDeclared)
    obtain ⟨⟨r, finished⟩, -⟩ := ran.of_copy one reads targetDeclared
    cases finished

/-! ## What arrives at a field leaves its source -/

/-- How many more writes have arrived at the target, suppressed ones among them, than at the source. -/
def surplus (source target : String) (c : Change) : Int :=
  c.journal.toList.countP (·.writes target) + c.journal.toList.countP (·.suppresses target) -
    c.journal.toList.countP (·.writes source)

theorem surplus_enter {c : Change} {store : Store} {name : String} :
    surplus source target (c.enter store name v) =
      surplus source target c + (if name = target then 1 else 0) - if name = source then 1 else 0 := by
  have writes (field : String) :
      [JournalEntry.write name v c.inFlight.names.length].countP (·.writes field) =
        if name = field then 1 else 0 := by
    simp [List.countP_singleton, JournalEntry.writes]
  have suppresses :
      [JournalEntry.write name v c.inFlight.names.length].countP (·.suppresses target) = 0 := rfl
  simp only [surplus, enter_events, List.countP_append, writes, suppresses]
  split <;> split <;> omega

theorem surplus_suppressed {c : Change} {name : String} :
    surplus source target (c.record (.suppressed name v)) =
      surplus source target c + if name = target then 1 else 0 := by
  have writes (field : String) : [JournalEntry.suppressed name v].countP (·.writes field) = 0 := rfl
  have suppresses : [JournalEntry.suppressed name v].countP (·.suppresses target) =
      if name = target then 1 else 0 := by
    simp [List.countP_singleton, JournalEntry.suppresses]
  simp only [surplus, record_events, List.countP_append, writes, suppresses]
  split <;> omega

theorem surplus_leave {c : Change} {name : String} :
    surplus source target (c.leave name) = surplus source target c :=
  rfl

/-- Each rule notified writes its field once. -/
theorem Responds.of_copy {c c' : Change}
    (h : Responds options subscriptions target 0 [⟨[⟨"s", [target, source]⟩]⟩] c c')
    (one : 1 ≤ options.maxSteps) (sourceDeclared : source ∈ c.store.names)
    (declared : target ∈ c.store.names) :
    ∃ v o, Writes options subscriptions c target v o c' := by
  obtain ⟨v, reads⟩ := Option.isSome_iff_exists.1 (Store.contains_iff.2 sourceDeclared)
  cases h with
  | finished ran others =>
    cases others
    obtain ⟨-, o, written⟩ := ran.of_copy one reads declared
    exact ⟨v, o, written⟩
  | failed ran =>
    obtain ⟨⟨r, finished⟩, -⟩ := ran.of_copy one reads declared
    cases finished

/-- A write below which fewer than so many fields are not in flight restores the surplus, up to the arrival
of its own. -/
def Restores (options : RunOptions) (subscriptions : List Subscription) (names : List String)
    (source target : String) (n : Nat) : Prop :=
  ∀ {c c' : Change} {name : String} {v : Value} {o : WriteOutcome}, c.store.names = names → spare c < n →
    name ∈ names → Writes options subscriptions c name v o c' →
    surplus source target c' = surplus source target c + if name = target then 1 else 0

theorem surplus_notifies (copying : Copying names subscriptions) (one : 1 ≤ options.maxSteps) {n : Nat}
    (restores : Restores options subscriptions names source target n) {ss : List Subscription}
    (among : ss ⊆ subscriptions) {c c' : Change} (declared : c.store.names = names) (room : spare c < n)
    (h : Notifies options subscriptions ss c c') :
    surplus source target c' = surplus source target c + ss.countP (·.field == target) := by
  induction ss generalizing c with
  | nil =>
    cases h
    exact (Int.add_zero _).symm
  | cons s ss ih =>
    cases h with
    | cons first others =>
      obtain ⟨mem, rest⟩ := List.cons_subset.1 among
      obtain ⟨target', targetDeclared, source', sourceDeclared, rfl⟩ := copying.rules s mem
      have level := first.level
      rw [← declared] at targetDeclared sourceDeclared
      obtain ⟨w, o, written⟩ := first.of_copy one sourceDeclared targetDeclared
      have arrived := restores declared room (declared ▸ targetDeclared) written
      have later := ih rest (level.names.trans declared) (level.spare_eq ▸ room) others
      rw [later, arrived, List.countP_cons]
      by_cases same : target' = target
      · simp [Subscription.copy, same]
        omega
      · simp [Subscription.copy, same]

/-- **A write restores the surplus**: whatever leaves the source of a field arrives at the field. -/
theorem restores (copying : Copying names subscriptions) (one : 1 ≤ options.maxSteps)
    (rule : .copy target source ∈ subscriptions) (n : Nat) :
    Restores options subscriptions names source target n := by
  -- what nests in a write has one more field in flight, so the induction is on the fields that are not
  induction n with
  | zero => exact fun _ room => absurd room (Nat.not_lt_zero _)
  | succ n ih =>
    intro c c' name v o declared room mem h
    cases h with
    | unknown undeclared => exact (undeclared (declared ▸ mem)).elim
    | suppressed => exact surplus_suppressed
    | applied set free notified =>
      have below : spare (c.enter _ name v) < spare c := spare_enter set free
      have among : Subscription.dependents subscriptions name ⊆ subscriptions := List.filter_subset_self _
      have arrived := surplus_notifies copying one ih among ((Store.names_of_set? set).trans declared)
        (by omega) notified
      have once : ((Subscription.dependents subscriptions name).countP (·.field == target) : Int) =
          if name = source then 1 else 0 := by
        have depends := countP_dependents copying.distinct rule name
        simp only [Subscription.copy, Subscription.dependsOn, List.contains_cons, List.contains_nil,
          Bool.or_false, beq_iff_eq] at depends
        rw [depends]
        split <;> rfl
      rw [surplus_leave, arrived, surplus_enter, once]
      omega

/-! ## What has been written in the end -/

/-- What is counted once stands there once. -/
theorem exists_filter_eq {α : Type} {p : α → Bool} {l : List α} (once : l.countP p = 1) :
    ∃ a ∈ l, p a = true ∧ l.filter p = [a] := by
  rw [List.countP_eq_length_filter, List.length_eq_one_iff] at once
  obtain ⟨a, single⟩ := once
  obtain ⟨mem, holds⟩ := List.mem_filter.1 (single ▸ List.mem_singleton_self a)
  exact ⟨a, mem, holds, single⟩

namespace Carried

variable {c : Change} {field : String}

theorem countP_suppresses (h : Carried names subscriptions root v c) (other : root ≠ field) :
    c.journal.toList.countP (·.suppresses field) = 0 := by
  rw [List.countP_eq_zero]
  intro e mem suppressed
  cases h.events e mem with
  | write => cases suppressed
  | suppressed => exact other (eq_of_beq suppressed)

theorem isSuppressed_eq (h : Carried names subscriptions root v c) {e : JournalEntry}
    (mem : e ∈ c.journal.toList) : e.isSuppressed = e.suppresses root := by
  cases h.events e mem with
  | write => rfl
  | suppressed => exact (beq_self_eq_true root).symm

theorem failures_eq_nil (h : Carried names subscriptions root v c) : c.journal.failures = [] := by
  rw [Journal.failures, List.filter_eq_nil_iff]
  intro e mem
  cases h.events e mem with
  | write => exact Bool.false_ne_true
  | suppressed => exact Bool.false_ne_true

/-- Without a cycle no write is suppressed. -/
theorem filter_isSuppressed_eq_nil (h : Carried names subscriptions root v c)
    (acyclic : ¬ Cyclic subscriptions root) : c.journal.toList.filter (·.isSuppressed) = [] := by
  rw [List.filter_eq_nil_iff]
  intro e mem suppressed
  cases h.events e mem with
  | write => cases suppressed
  | suppressed cyclic => exact acyclic cyclic

variable (h : Carried names subscriptions root v c) (copying : Copying names subscriptions)
  (balanced : ∀ source target, .copy target source ∈ subscriptions →
    surplus source target c = if root = target then 1 else 0)

include h copying balanced

/-- **Every field reached is written once**, since its source is. -/
theorem countP_writes (reached : Reaches subscriptions root field) :
    c.journal.toList.countP (·.writes field) = 1 := by
  induction reached with
  | refl => exact h.held.once
  | @tail source target _ leads ih =>
    by_cases same : root = target
    · rw [← same]
      exact h.held.once
    · have level := balanced source target (copying.leads_iff.1 leads)
      rw [surplus, h.countP_suppresses same, ih, if_neg same] at level
      omega

theorem filter_writes (reached : Reaches subscriptions root field) :
    ∃ n, Distance (Leads subscriptions) root field n ∧
      c.journal.toList.filter (·.writes field) = [.write field v n] := by
  obtain ⟨e, mem, writes, single⟩ := exists_filter_eq (h.countP_writes copying balanced reached)
  cases h.events e mem with
  | @write other depth far =>
    cases eq_of_beq writes
    exact ⟨depth, far, single⟩
  | suppressed => cases writes

/-- The one write that is suppressed closes the cycle. -/
theorem filter_isSuppressed (cyclic : Cyclic subscriptions root) :
    c.journal.toList.filter (·.isSuppressed) = [.suppressed root v] := by
  obtain ⟨source, reached, leads⟩ := Relation.TransGen.tail'_iff.1 cyclic
  have level := balanced source root (copying.leads_iff.1 leads)
  rw [surplus, h.held.once, h.countP_writes copying balanced reached, if_pos rfl] at level
  have once : c.journal.toList.countP (·.suppresses root) = 1 := by omega
  obtain ⟨e, mem, suppressed, single⟩ := exists_filter_eq once
  rw [List.filter_congr fun e mem => h.isSuppressed_eq mem, single]
  cases h.events e mem with
  | write => cases suppressed
  | suppressed => rfl

end Carried

end Propagation

end Formulary
