import Formulary.Proofs.Kin
import Formulary.Proofs.Propagation.Abreast
import Formulary.Proofs.Propagation.Replay

/-!
# What a change depends on and what it affects

A change of a form is decided by the rules, by what is bound, and by the values of the names it may read
(`Form.setValue_abreast`); it affects fields the rules lead to, and what it makes of them its journal
says (`Form.Changed`). Hence values nobody reads do not influence a change (`Form.setValue_unread`), and
changes that neither write nor read what the other writes commute (`Form.setValue_comm`).
-/

namespace Formulary

namespace JournalEntry

variable {e e' : JournalEntry} {r r' : Registry}

/-- The event tells of a push what is bound in the registry. -/
def Fits (r : Registry) : JournalEntry → Prop
  | .push target _ _ => r.contains target = true
  | .noBinding target _ => r.contains target = false
  | _ => True

/-- Matching events are the same if the same components are bound. -/
theorem Matches.eq_of_fits (h : e.Matches e') (fits : e.Fits r) (fits' : e'.Fits r')
    (bound : ∀ target, r'.contains target = r.contains target) : e' = e := by
  cases h with
  | same => rfl
  | missed target property value =>
    have unbound : r'.contains target = false := fits'
    have found : r.contains target = true := fits
    rw [bound, found] at unbound
    cases unbound
  | found target property value =>
    have found : r'.contains target = true := fits'
    have unbound : r.contains target = false := fits
    rw [bound, unbound] at found
    cases found

theorem Matches.write? (h : e.Matches e') : e'.write? = e.write? := by
  cases h <;> rfl

end JournalEntry

namespace Journal

variable {j k : Journal} {r r' : Registry}

theorem Matches.eq_of_fits (h : j.Matches k) (fits : ∀ e ∈ j.toList, e.Fits r)
    (fits' : ∀ e ∈ k.toList, e.Fits r') (bound : ∀ target, r'.contains target = r.contains target) :
    k = j := by
  have same : k.toList = j.toList := by
    unfold Matches at h
    generalize j.toList = es at h fits
    generalize k.toList = es' at h fits'
    induction h with
    | nil => rfl
    | cons first _ ih =>
      rw [first.eq_of_fits (fits _ List.mem_cons_self) (fits' _ List.mem_cons_self) bound,
        ih (fun e mem => fits e (List.mem_cons_of_mem _ mem))
          fun e mem => fits' e (List.mem_cons_of_mem _ mem)]
  cases j
  cases k
  simpa [toList, Array.toList_inj] using same

/-- Journals that match have the same writes. -/
theorem Matches.writes (h : j.Matches k) : k.writes = j.writes := by
  unfold Matches at h
  unfold Journal.writes
  generalize j.toList = es at h ⊢
  generalize k.toList = es' at h ⊢
  induction h with
  | nil => rfl
  | cons first _ ih => rw [List.filterMap_cons, List.filterMap_cons, first.write?, ih]

theorem mem_writes {field : String} :
    field ∈ j.writes.map (·.1) ↔ ∃ v depth, .write field v depth ∈ j.toList := by
  simp only [writes, List.mem_map, List.mem_filterMap]
  constructor
  · rintro ⟨entry, ⟨e, mem, write⟩, rfl⟩
    cases e <;> cases write
    exact ⟨_, _, mem⟩
  · rintro ⟨v, depth, mem⟩
    exact ⟨(field, v), ⟨_, mem, rfl⟩, rfl⟩

end Journal

namespace Form

open Propagation

variable {f f' g g' : Form} {name : String} {value : Value} {j k : Journal}

/-- What a change of a field, told by a journal, makes of a form. -/
structure Changed (f : Form) (name : String) (f' : Form) (j : Journal) : Prop where
  kin : Kin f f'
  writes : setAll? f.store j.writes = some f'.store
  mounts : f'.registry.mounts = f.registry.mounts
  fits : ∀ e ∈ j.toList, e.Fits f.registry
  written : ∀ field v depth, .write field v depth ∈ j.toList → Reaches f.subscriptions name field
  kept : ∀ field, ¬ Reaches f.subscriptions name field → f'.value? field = f.value? field

theorem changed_of_setValue (result : f.setValue name value = .ok (f', j)) : Changed f name f' j := by
  have kin := kin_of_setValue result
  obtain ⟨store, c, set, notified, result'⟩ := setValue_course (declared_of_setValue result) value
  rw [result] at result'
  cases result'
  have steps := (steps_of_notifies notified).1
  have start : Replayed f.store f.registry f.change := .start _ _
  have replayed : Replayed f.store f.registry c :=
    Steps.invariant steps (fun _ _ step => step.replayed) (start.enter set)
  have confined : Confined f.subscriptions name f.store c :=
    Steps.invariant steps (fun _ _ step => step.confined) (confined_change.enter .refl set)
  refine ⟨kin, replayed.writes, replayed.mounts, fun e mem => ?_, confined.written, confined.kept⟩
  cases e with
  | push target property v => exact replayed.bound target property v mem
  | noBinding target property => exact replayed.unbound target property mem
  | _ => trivial

/-- **Changes of the same field to the same value run abreast in forms that are kin**, as long as the names
that the change may read hold the same values. -/
theorem setValue_abreast (kin : Kin f g) (declared : name ∈ f.store.names)
    (reads : ∀ field ∈ f.store.names, Reads f.subscriptions name field → g.value? field = f.value? field)
    (value : Value) :
    ∃ f' g' j k, f.setValue name value = .ok (f', j) ∧ g.setValue name value = .ok (g', k) ∧
      j.Matches k := by
  have declared' : name ∈ g.store.names := by rw [kin.names]; exact declared
  obtain ⟨store, c, set, notified, result⟩ := setValue_course declared value
  obtain ⟨store', d, set', notified', result'⟩ := setValue_course declared' value
  have course : Writes f.options f.subscriptions f.change name value .applied (c.leave name) :=
    .applied set List.not_mem_nil notified
  have course' : Writes g.options g.subscriptions g.change name value .applied (d.leave name) :=
    .applied set' List.not_mem_nil notified'
  have side : Abreast (Reads f.subscriptions name) f.change g.change := by
    refine ⟨rfl, kin.names, fun field counts => ?_, .nil⟩
    by_cases known : field ∈ f.store.names
    · exact reads field known counts
    · have unknown : field ∉ g.store.names := by rw [kin.names]; exact known
      exact (Store.get?_of_not_mem unknown).trans (Store.get?_of_not_mem known).symm
  obtain ⟨d', other, ends⟩ := course.abreast .refl side
  rw [kin.options, kin.subscriptions] at course'
  obtain ⟨-, rfl⟩ := other.unique course'
  exact ⟨_, _, _, _, result, result', ends.journals⟩

/-- It takes no more than that for the journals to be the same if the same identifiers are bound. -/
theorem setValue_alike (kin : Kin f g)
    (bound : ∀ identifier, g.registry.contains identifier = f.registry.contains identifier)
    (declared : name ∈ f.store.names)
    (reads : ∀ field ∈ f.store.names, Reads f.subscriptions name field → g.value? field = f.value? field)
    (value : Value) :
    ∃ f' g' j, f.setValue name value = .ok (f', j) ∧ g.setValue name value = .ok (g', j) := by
  obtain ⟨f', g', j, k, result, result', matching⟩ := setValue_abreast kin declared reads value
  have same : k = j :=
    matching.eq_of_fits (changed_of_setValue result).fits (changed_of_setValue result').fits bound
  subst same
  exact ⟨f', g', k, result, result'⟩

/-! ## Values nobody reads -/

/-- **Values nobody reads do not influence a change.** In two forms of one definition that have the same
identifiers bound and agree on the operands their subscribed programs read, a change has the same
journal; after it a field written in the journal holds the same value in both forms, and every other
field holds in each form what it held before. -/
theorem setValue_unread (kin : Kin f g)
    (bound : ∀ identifier, g.registry.contains identifier = f.registry.contains identifier)
    (agree : ∀ s ∈ f.subscriptions, ∀ field ∈ s.sources, g.value? field = f.value? field)
    (declared : name ∈ f.store.names) (value : Value) :
    ∃ f' g' j, f.setValue name value = .ok (f', j) ∧ g.setValue name value = .ok (g', j) ∧
      ∀ field,
        ((∃ v depth, .write field v depth ∈ j.toList) → g'.value? field = f'.value? field) ∧
        ((∀ v depth, .write field v depth ∉ j.toList) →
          f'.value? field = f.value? field ∧ g'.value? field = g.value? field) := by
  obtain ⟨f', g', j, result, result'⟩ := setValue_alike kin bound declared
    (fun field _ ⟨s, concerned, read⟩ => agree s concerned.mem field read) value
  have inF := (changed_of_setValue result).writes
  have inG := (changed_of_setValue result').writes
  refine ⟨f', g', j, result, result', fun field => ⟨fun written => ?_, fun unwritten => ?_⟩⟩
  · exact get?_of_setAll?_of_mem inF inG (Journal.mem_writes.2 written)
  · have absent : field ∉ j.writes.map (·.1) := by
      intro mem
      obtain ⟨v, depth, written⟩ := Journal.mem_writes.1 mem
      exact unwritten v depth written
    exact ⟨get?_of_setAll?_of_not_mem inF absent, get?_of_setAll?_of_not_mem inG absent⟩

/-- A memo of the source, with a copy made whenever the memo changes; the memo is written and depended
on, but no program reads it, and nothing at all becomes of the field aside. -/
def relay : Form where
  name := "relay"
  options := {}
  lengthRules := []
  subscriptions :=
    [⟨"memo", ["source"], [⟨[⟨"s", ["memo", "source"]⟩, ⟨"sp", ["lamp", "lit", "copy"]⟩]⟩]⟩,
      ⟨"copy", ["memo", "aside"], [⟨[⟨"s", ["copy", "source"]⟩, ⟨"s", ["memo", "copy"]⟩]⟩]⟩]
  validators := []
  issues := []
  owner := ⟨1⟩
  store := ⟨[("source", .null), ("memo", .null), ("aside", .null), ("copy", .null)]⟩
  registry := { mounts := [⟨"lamp", ⟨1⟩, 0, true⟩], sheets := [{}], owners := 1 }

theorem relay_unread :
    let used : Form := { relay with
      store := ⟨[("source", .null), ("memo", .text "old"), ("aside", .text "kept"), ("copy", .null)]⟩ }
    Kin relay used ∧
      (∀ identifier, used.registry.contains identifier = relay.registry.contains identifier) ∧
      (∀ s ∈ relay.subscriptions, ∀ field ∈ s.sources, used.value? field = relay.value? field) ∧
      "source" ∈ relay.store.names ∧
      ∃ f' g' j, relay.setValue "source" (.text "x") = .ok (f', j) ∧
        used.setValue "source" (.text "x") = .ok (g', j) ∧
        ∀ field,
          ((∃ v depth, .write field v depth ∈ j.toList) → g'.value? field = f'.value? field) ∧
          ((∀ v depth, .write field v depth ∉ j.toList) →
            f'.value? field = relay.value? field ∧ g'.value? field = used.value? field) := by
  intro used
  have loaded : relay.loadValues [("memo", .text "old"), ("aside", .text "kept")] = .ok used := by
    decide +kernel
  have kin : Kin relay used := kin_of_requests .refl (.single (.loadValues loaded))
  have agree : ∀ s ∈ relay.subscriptions, ∀ field ∈ s.sources,
      used.value? field = relay.value? field := by
    decide +kernel
  have declared : "source" ∈ relay.store.names := by decide
  exact ⟨kin, fun _ => rfl, agree, declared,
    setValue_unread kin (fun _ => rfl) agree declared (.text "x")⟩

/-! ## Independent changes -/

/-- A change is the same after another that writes nothing the first may read. -/
theorem setValue_after {other : String} {f₁ : Form} {k : Journal} (before : Changed f other f₁ k)
    (declared : name ∈ f.store.names)
    (apart : ∀ field ∈ f.store.names, Reaches f.subscriptions other field →
      ¬ Reads f.subscriptions name field) (value : Value) :
    ∃ f' f₁' j, f.setValue name value = .ok (f', j) ∧ f₁.setValue name value = .ok (f₁', j) := by
  refine setValue_alike before.kin (fun _ => Registry.contains_congr before.mounts) declared ?_ value
  intro field known read
  exact before.kept field fun reached => apart field known reached read

/-- **Independent changes commute.** If the rules lead from neither of two fields to a field that they lead
to from the other or that a change of the other may read, changes of the two can be made in either
order: the values are the same in the end, and each of the changes has the same journal. -/
theorem setValue_comm (f : Form) {a b : String} (declared : a ∈ f.store.names)
    (declared' : b ∈ f.store.names)
    (apart : ∀ field ∈ f.store.names, Reaches f.subscriptions a field →
      ¬ Reaches f.subscriptions b field ∧ ¬ Reads f.subscriptions b field)
    (apart' : ∀ field ∈ f.store.names, Reaches f.subscriptions b field →
      ¬ Reads f.subscriptions a field) (v w : Value) :
    ∃ fa fb fab fba j k,
      f.setValue a v = .ok (fa, j) ∧ fa.setValue b w = .ok (fab, k) ∧
      f.setValue b w = .ok (fb, k) ∧ fb.setValue a v = .ok (fba, j) ∧
      fba.values = fab.values := by
  obtain ⟨fa, j, ofA⟩ := exists_setValue declared v
  obtain ⟨fb, k, ofB⟩ := exists_setValue declared' w
  have first := changed_of_setValue ofA
  have first' := changed_of_setValue ofB
  obtain ⟨_, fab, _, again, ofAB⟩ :=
    setValue_after first declared' (fun field known reached => (apart field known reached).2) w
  obtain ⟨_, fba, _, again', ofBA⟩ := setValue_after first' declared apart' v
  rw [ofB] at again
  cases again
  rw [ofA] at again'
  cases again'
  have second := changed_of_setValue ofAB
  have second' := changed_of_setValue ofBA
  -- the two journals write different fields, so their writes can be replayed in either order
  have distinct : ∀ field ∈ j.writes.map (·.1), field ∉ k.writes.map (·.1) := by
    intro field mem mem'
    have known : field ∈ f.store.names := mem_names_of_setAll? first.writes mem
    obtain ⟨_, _, byA⟩ := Journal.mem_writes.1 mem
    obtain ⟨_, _, byB⟩ := Journal.mem_writes.1 mem'
    exact (apart field known (first.written _ _ _ byA)).1 (first'.written _ _ _ byB)
  have ends : some fba.store = some fab.store := by
    calc some fba.store = (setAll? f.store k.writes).bind (setAll? · j.writes) := by
          rw [first'.writes, Option.bind_some, second'.writes]
      _ = (setAll? f.store j.writes).bind (setAll? · k.writes) := (setAll?_comm distinct).symm
      _ = some fab.store := by rw [first.writes, Option.bind_some, second.writes]
  refine ⟨fa, fb, fab, fba, j, k, ofA, ofAB, ofB, ofBA, ?_⟩
  rw [values, values, Option.some.inj ends]

/-- A price with a total, and two fields that copy each other with a program that fails in between; both
depend on the same rate. -/
def stall : Form where
  name := "stall"
  options := {}
  lengthRules := []
  subscriptions :=
    [⟨"total", ["price"], [⟨[⟨"jrgt", ["0", "rate", "2"]⟩, ⟨"s", ["total", "price"]⟩,
        ⟨"sp", ["panel", "shown", "total"]⟩]⟩]⟩,
      ⟨"left", ["right"], [⟨[⟨"s", ["left", "right"]⟩, ⟨"ring", []⟩]⟩]⟩,
      ⟨"right", ["left"], [⟨[⟨"s", ["right", "rate"]⟩, ⟨"s", ["right", "left"]⟩]⟩]⟩]
  validators := []
  issues := []
  owner := ⟨1⟩
  store := ⟨[("price", .null), ("total", .null), ("rate", .text "2"), ("left", .null), ("right", .null)]⟩
  registry := { mounts := [⟨"panel", ⟨1⟩, 0, true⟩], sheets := [{}], owners := 1 }

theorem stall_comm :
    "price" ∈ stall.store.names ∧ "left" ∈ stall.store.names ∧
      (∀ field ∈ stall.store.names, Reaches stall.subscriptions "price" field →
        ¬ Reaches stall.subscriptions "left" field ∧ ¬ Reads stall.subscriptions "left" field) ∧
      (∀ field ∈ stall.store.names, Reaches stall.subscriptions "left" field →
        ¬ Reads stall.subscriptions "price" field) ∧
      ∃ fa fb fab fba j k,
        stall.setValue "price" (.text "8") = .ok (fa, j) ∧ fa.setValue "left" (.text "x") = .ok (fab, k) ∧
        stall.setValue "left" (.text "x") = .ok (fb, k) ∧ fb.setValue "price" (.text "8") = .ok (fba, j) ∧
        fba.values = fab.values := by
  have ofPrice : ∀ field, Reaches stall.subscriptions "price" field → field ∈ ["price", "total"] :=
    fun field => mem_of_reaches (by decide +kernel) (by decide)
  have ofLeft : ∀ field, Reaches stall.subscriptions "left" field → field ∈ ["left", "right"] :=
    fun field => mem_of_reaches (by decide +kernel) (by decide)
  have readForPrice : ∀ field, Reads stall.subscriptions "price" field →
      field ∈ ["0", "rate", "price", "total"] :=
    fun field => mem_of_reads ["price", "total"] (by decide +kernel) (by decide +kernel) (by decide)
  have readForLeft : ∀ field, Reads stall.subscriptions "left" field → field ∈ ["rate", "left", "right"] :=
    fun field => mem_of_reads ["left", "right"] (by decide +kernel) (by decide +kernel) (by decide)
  have apart : ∀ field ∈ stall.store.names, Reaches stall.subscriptions "price" field →
      ¬ Reaches stall.subscriptions "left" field ∧ ¬ Reads stall.subscriptions "left" field := by
    intro field _ reached
    have disjoint : ∀ x ∈ ["price", "total"], x ∉ ["left", "right"] ∧ x ∉ ["rate", "left", "right"] := by
      decide
    obtain ⟨other, unread⟩ := disjoint field (ofPrice field reached)
    exact ⟨fun reached' => other (ofLeft field reached'), fun read => unread (readForLeft field read)⟩
  have apart' : ∀ field ∈ stall.store.names, Reaches stall.subscriptions "left" field →
      ¬ Reads stall.subscriptions "price" field := by
    intro field _ reached read
    have disjoint : ∀ x ∈ ["left", "right"], x ∉ ["0", "rate", "price", "total"] := by decide
    exact disjoint field (ofLeft field reached) (readForPrice field read)
  exact ⟨by decide, by decide, apart, apart',
    setValue_comm stall (by decide) (by decide) apart apart' (.text "8") (.text "x")⟩

end Form

end Formulary
