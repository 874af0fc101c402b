import Formulary.Proofs.Kin
import Formulary.Proofs.Propagation.Abreast
import Formulary.Proofs.Propagation.Notification
import Formulary.Proofs.Setup

/-!
# A broken program among others

A program whose first row has an unknown mnemonic fails each time it is run, before it does anything. Put
among the programs of a field it takes an index, and leaves its failures in the journal, but whatever else
a change sets off is the same with it and without (`Form.setValue_isolated`): `Writes.isolated` makes of
the course of a change with the program the course without it.
-/

namespace Formulary

namespace JournalEntry

/-- The event in a form that lacks the program of a field with an index: there is no failure of it, and
the programs behind it have the index before. -/
def without (field : String) (k : Nat) : JournalEntry → Option JournalEntry
  | .failure f program e =>
    if f = field then
      if program = k then none
      else some (.failure f (if k < program then program - 1 else program) e)
    else some (.failure f program e)
  | e => some e

end JournalEntry

namespace Journal

variable {j : Journal} {e e' : JournalEntry} {field : String} {k : Nat}

/-- The journal in a form that lacks the program of a field with an index. -/
def without (j : Journal) (field : String) (k : Nat) : Journal :=
  ⟨j.entries.filterMap (·.without field k)⟩

theorem without_record_of_some (kept : e.without field k = some e') :
    (j.record e).without field k = (j.without field k).record e' := by
  simp [without, record, kept]

theorem without_record_of_none (dropped : e.without field k = none) :
    (j.record e).without field k = j.without field k := by
  simp [without, record, dropped]

end Journal

/-- The definition of a field, with one more program at the index if it is the field of that name and
has programs. -/
def FieldDefinition.withProgram (field : String) (k : Nat) (source : String) (f : FieldDefinition) :
    FieldDefinition :=
  { f with programs := if f.name = field then f.programs.map (·.insertIdx k source) else f.programs }

/-- The definition in which the field of that name has one more program, at the index. -/
def FormDefinition.withProgram (d : FormDefinition) (field : String) (k : Nat) (source : String) :
    FormDefinition :=
  { d with fields := d.fields.map (FieldDefinition.withProgram field k source) }

/-- The subscription with one more program, at the index, if it is that of the field. -/
def Subscription.withProgram (field : String) (k : Nat) (p : Program) (s : Subscription) : Subscription :=
  { s with programs := if s.field = field then s.programs.insertIdx k p else s.programs }

variable {d : FormDefinition} {fd : FieldDefinition} {options : RunOptions}
  {subscriptions : List Subscription} {field source : String} {sources : List String} {k : Nat}
  {p : Program}

/-! ## Building the form with the program -/

namespace FormDefinition

theorem checkNamesFrom_withProgram {fds : List FieldDefinition} {seen : List String} :
    checkNamesFrom seen (fds.map (FieldDefinition.withProgram field k source)) =
      checkNamesFrom seen fds := by
  induction fds generalizing seen with
  | nil => rfl
  | cons fd fds ih =>
    have name : (fd.withProgram field k source).name = fd.name := rfl
    simp only [List.map_cons, checkNamesFrom, name, ih]

theorem isNone_field?_withProgram (name : String) :
    ((d.withProgram field k source).field? name).isNone = (d.field? name).isNone := by
  have names : (fun fd : FieldDefinition => fd.name == name) ∘ FieldDefinition.withProgram field k source =
      fun fd => fd.name == name := rfl
  simp only [field?, withProgram, List.find?_map, names, Option.isNone_map]

theorem checkDependencies_withProgram :
    (d.withProgram field k source).checkDependencies (fd.withProgram field k source) =
      d.checkDependencies fd := by
  unfold checkDependencies FieldDefinition.withProgram
  by_cases same : fd.name = field
  · cases fd.dependencies <;> cases fd.programs <;> simp [same, isNone_field?_withProgram]
  · simp only [if_neg same, isNone_field?_withProgram]

end FormDefinition

namespace FieldSetup

/-- Among sources that compile, a source keeps its index when all are compiled. -/
theorem compile_insertIdx (compiles : Program.compile source = .ok p)
    (clean : ∀ s ∈ sources, (Program.compile s).toOption.isSome = true) :
    (sources.insertIdx k source).filterMap (fun s => (Program.compile s).toOption) =
      (sources.filterMap fun s => (Program.compile s).toOption).insertIdx k p := by
  induction sources generalizing k with
  | nil => cases k <;> simp [compiles, Except.toOption]
  | cons s sources ih =>
    obtain ⟨first, others⟩ := List.forall_mem_cons.1 clean
    obtain ⟨q, compiled⟩ := Option.isSome_iff_exists.1 first
    cases k with
    | zero => simp [compiles, Except.toOption]
    | succ k => simp [compiled, ih others]

theorem compilePrograms_insertIdx_snd {index : Nat} (compiles : Program.compile source = .ok p) :
    (compilePrograms field index (sources.insertIdx k source)).2.isEmpty =
      (compilePrograms field index sources).2.isEmpty := by
  rw [Bool.eq_iff_iff, compilePrograms_snd_isEmpty, compilePrograms_snd_isEmpty]
  by_cases among : k ≤ sources.length
  · simp [List.mem_insertIdx among, compiles, Except.toOption]
  · rw [List.insertIdx_of_length_lt (by omega)]

theorem compilePrograms_insertIdx_fst {index : Nat} (compiles : Program.compile source = .ok p)
    (clean : (compilePrograms field index sources).2.isEmpty = true) :
    (compilePrograms field index (sources.insertIdx k source)).1 =
      (compilePrograms field index sources).1.insertIdx k p := by
  rw [compilePrograms_fst, compilePrograms_fst]
  exact compile_insertIdx compiles (compilePrograms_snd_isEmpty.1 clean)

theorem subscription?_withProgram (compiles : Program.compile source = .ok p) :
    (subscription? (d.withProgram field k source) (fd.withProgram field k source)).1 =
      (subscription? d fd).1.map (Subscription.withProgram field k p) := by
  unfold subscription?
  rw [FormDefinition.checkDependencies_withProgram]
  cases d.checkDependencies fd with
  | error e => rfl
  | ok =>
    unfold FieldDefinition.withProgram
    cases fd.dependencies with
    | none => rfl
    | some dependencies =>
      cases fd.programs with
      | none => simp
      | some sources =>
        by_cases same : fd.name = field
        · subst same
          simp only [if_true, Option.map_some, compilePrograms_insertIdx_snd compiles]
          by_cases clean : (compilePrograms fd.name 0 sources).2.isEmpty = true
          · simp [clean, compilePrograms_insertIdx_fst compiles clean, Subscription.withProgram]
          · simp [clean]
        · simp only [if_neg same]
          split <;> simp [Subscription.withProgram, same]

end FieldSetup

namespace Form

/-- The form of the definition with the program can be built too, and has the subscriptions with the
program. -/
theorem build_withProgram {f : Form} (compiles : Program.compile source = .ok p)
    (built : build d options = .ok f) :
    ∃ f', build (d.withProgram field k source) options = .ok f' ∧ f'.options = f.options ∧
      f'.subscriptions = f.subscriptions.map (Subscription.withProgram field k p) := by
  have names : (d.withProgram field k source).checkNames = d.checkNames :=
    FormDefinition.checkNamesFrom_withProgram
  have built' : build (d.withProgram field k source) options =
      .ok (assemble (d.withProgram field k source) options) := by
    unfold build at built ⊢
    rw [names]
    cases checked : d.checkNames with
    | ok => rfl
    | error e =>
      rw [checked] at built
      cases built
  refine ⟨_, built', ?_, ?_⟩
  · obtain ⟨-, rfl⟩ := of_build built
    rfl
  · rw [subscriptions_of_build built', subscriptions_of_build built, List.map_filterMap]
    simp only [FormDefinition.withProgram, List.filterMap_map]
    refine List.filterMap_congr fun fd _ => ?_
    exact FieldSetup.subscription?_withProgram compiles

end Form

/-! ## The course without the program -/

namespace Propagation

/-- Two changes that stand at the same point, of which the first is in a form with the program: all is the
same but for the failures of the program in its journal. -/
structure Beside (field : String) (k : Nat) (c d : Change) : Prop where
  store : d.store = c.store
  registry : d.registry = c.registry
  inFlight : d.inFlight = c.inFlight
  journal : d.journal = c.journal.without field k

namespace Beside

variable {c d : Change} {e e' : JournalEntry}

theorem record (h : Beside field k c d) (kept : e.without field k = some e') :
    Beside field k (c.record e) (d.record e') where
  store := h.store
  registry := h.registry
  inFlight := h.inFlight
  journal := by
    simp only [Change.record]
    rw [h.journal, Journal.without_record_of_some kept]

theorem record_left (h : Beside field k c d) (dropped : e.without field k = none) :
    Beside field k (c.record e) d where
  store := h.store
  registry := h.registry
  inFlight := h.inFlight
  journal := by
    simp only [Change.record]
    rw [h.journal, Journal.without_record_of_none dropped]

theorem enter (h : Beside field k c d) (store : Store) (name : String) (value : Value) :
    Beside field k (c.enter store name value) (d.enter store name value) := by
  have marked : Beside field k { c with store, inFlight := ⟨name :: c.inFlight.names⟩ }
      { d with store, inFlight := ⟨name :: d.inFlight.names⟩ } :=
    ⟨rfl, h.registry, by rw [h.inFlight], h.journal⟩
  unfold Change.enter
  apply marked.record
  rw [h.inFlight]
  rfl

theorem leave (h : Beside field k c d) (name : String) : Beside field k (c.leave name) (d.leave name) where
  store := h.store
  registry := h.registry
  inFlight := by simp only [Change.leave, h.inFlight]
  journal := h.journal

theorem push (h : Beside field k c d) (target property : String) (value : Value) :
    Beside field k (c.push target property value).2 (d.push target property value).2 := by
  unfold Change.push
  rw [h.registry]
  split
  · rename_i registry _
    have bound : Beside field k { c with registry } { d with registry } :=
      ⟨h.store, rfl, h.inFlight, h.journal⟩
    exact bound.record rfl
  · exact h.record rfl

/-- The same row demands the same. -/
theorem demand (h : Beside field k c d) {relation : Relation} {context : Context} {index : Nat} {row : Row} :
    Machine.demand reader relation context d index row =
      Machine.demand reader relation context c index row := by
  apply Machine.demand_congr
  intro operand _
  change d.store.get? operand = c.store.get? operand
  rw [h.store]

end Beside

/-- The programs of the field `f` that are still to be run, and the index of the first, in the form with
the program of `field` and in the one without it. -/
inductive ToRun (field : String) (k : Nat) (p : Program) (f : String) :
    Nat → List Program → Nat → List Program → Prop where
  /-- They are those of another field. -/
  | other {index ps} (differs : f ≠ field) : ToRun field k p f index ps index ps
  /-- The program is still to come. -/
  | before {index ahead ps} (same : f = field) (position : index + ahead = k) :
      ToRun field k p f index (ps.insertIdx ahead p) index ps
  /-- The program has been run. -/
  | behind {index ps} (same : f = field) (late : k ≤ index) : ToRun field k p f (index + 1) ps index ps

theorem toRun_withProgram (s : Subscription) :
    ToRun field k p s.field 0 (s.withProgram field k p).programs 0 s.programs := by
  by_cases same : s.field = field
  · simp only [Subscription.withProgram, if_pos same]
    exact .before same (Nat.zero_add k)
  · simp only [Subscription.withProgram, if_neg same]
    exact .other same

theorem ToRun.nil {f : String} {index index' : Nat} {all rest : List Program}
    (h : ToRun field k p f index all index' rest) (done : all = []) : rest = [] := by
  cases h with
  | other => exact done
  | behind => exact done
  | @before _ ahead _ =>
    cases rest with
    | nil => rfl
    | cons q rest => cases ahead <;> cases done

/-- The next program to be run is the one that the other form lacks, or it is next in the other form too
and a failure of it appears in its journal with the index it has there. -/
theorem ToRun.next {f : String} {index index' : Nat} {q : Program} {all ps rest : List Program}
    (h : ToRun field k p f index all index' rest) (first : all = q :: ps) :
    (q = p ∧ (∀ e, (JournalEntry.failure f index e).without field k = none) ∧
      ToRun field k p f (index + 1) ps index' rest) ∨
    ∃ rest', rest = q :: rest' ∧
      (∀ e, (JournalEntry.failure f index e).without field k = some (.failure f index' e)) ∧
      ToRun field k p f (index + 1) ps (index' + 1) rest' := by
  cases h with
  | other differs =>
    right
    exact ⟨ps, first, fun e => by simp [JournalEntry.without, differs], .other differs⟩
  | behind same late =>
    right
    refine ⟨ps, first, fun e => ?_, .behind same (by omega)⟩
    have passed : k < index' + 1 := by omega
    have elsewhere : ¬ index' + 1 = k := by omega
    simp [JournalEntry.without, same, passed, elsewhere]
  | @before _ ahead _ same position =>
    cases ahead with
    | zero =>
      cases first
      left
      refine ⟨rfl, fun e => ?_, .behind same (by omega)⟩
      have here : index = k := position
      simp [JournalEntry.without, same, here]
    | succ ahead =>
      cases rest with
      | nil => cases first
      | cons r rest =>
        cases first
        right
        refine ⟨rest, rfl, fun e => ?_, .before same (by omega)⟩
        have early : ¬ k < index := by omega
        have elsewhere : ¬ index = k := by omega
        simp [JournalEntry.without, same, early, elsewhere]

theorem dependents_withProgram (name : String) :
    Subscription.dependents (subscriptions.map (Subscription.withProgram field k p)) name =
      (Subscription.dependents subscriptions name).map (Subscription.withProgram field k p) := by
  have depends : (fun s : Subscription => s.dependsOn name) ∘ Subscription.withProgram field k p =
      fun s => s.dependsOn name := rfl
  rw [Subscription.dependents, List.filter_map, depends]
  rfl

mutual

/-- **Of the course of a write with a broken program there is one without it.** -/
theorem Writes.isolated {c c' d : Change} {name : String} {value : Value} {o : WriteOutcome}
    (h : Writes options (subscriptions.map (Subscription.withProgram field k p)) c name value o c')
    (starts : p.StartsUnknown) (side : Beside field k c d) :
    ∃ d', Writes options subscriptions d name value o d' ∧ Beside field k c' d' := by
  match h with
  | .unknown undeclared => exact ⟨d, .unknown (by rw [side.store]; exact undeclared), side⟩
  | .suppressed declared busy =>
    refine ⟨_, .suppressed ?_ ?_, side.record rfl⟩
    · rw [side.store]; exact declared
    · rw [side.inFlight]; exact busy
  | .applied set free notified =>
    obtain ⟨d', notified', ends⟩ :=
      Notifies.isolated notified starts (dependents_withProgram name) (side.enter _ name value)
    refine ⟨_, .applied ?_ ?_ notified', ends.leave name⟩
    · rw [side.store]; exact set
    · rw [side.inFlight]; exact free
termination_by structural h

theorem Notifies.isolated {c c' d : Change} {ss rest : List Subscription}
    (h : Notifies options (subscriptions.map (Subscription.withProgram field k p)) ss c c')
    (starts : p.StartsUnknown) (extended : ss = rest.map (Subscription.withProgram field k p))
    (side : Beside field k c d) :
    ∃ d', Notifies options subscriptions rest d d' ∧ Beside field k c' d' := by
  match h with
  | .nil =>
    obtain rfl := List.map_eq_nil_iff.1 extended.symm
    exact ⟨d, .nil, side⟩
  | .cons (s := s') first others =>
    obtain ⟨s, rest', rfl, same, same'⟩ := List.map_eq_cons_iff.1 extended.symm
    have ofField : s'.field = s.field := by rw [← same]; rfl
    have toRun : ToRun field k p s'.field 0 s'.programs 0 s.programs := by
      rw [← same]
      exact toRun_withProgram s
    obtain ⟨d', first', between⟩ := Responds.isolated first starts toRun side
    obtain ⟨d'', others', ends⟩ := Notifies.isolated others starts same'.symm between
    rw [ofField] at first'
    exact ⟨d'', .cons first' others', ends⟩
termination_by structural h

theorem Responds.isolated {c c' d : Change} {f : String} {index index' : Nat} {ps rest : List Program}
    (h : Responds options (subscriptions.map (Subscription.withProgram field k p)) f index ps c c')
    (starts : p.StartsUnknown) (toRun : ToRun field k p f index ps index' rest)
    (side : Beside field k c d) :
    ∃ d', Responds options subscriptions f index' rest d d' ∧ Beside field k c' d' := by
  match h with
  | .nil =>
    obtain rfl := toRun.nil rfl
    exact ⟨d, .nil, side⟩
  | .finished ran others =>
    obtain ⟨broken, -⟩ | ⟨rest', rfl, -, toRun'⟩ := toRun.next rfl
    · obtain ⟨⟨e, failed⟩, -⟩ := ran.of_startsUnknown (broken ▸ starts)
      cases failed
    · obtain ⟨d', ran', between⟩ := Runs.isolated ran starts side
      obtain ⟨d'', others', ends⟩ := Responds.isolated others starts toRun' between
      exact ⟨d'', .finished ran' others', ends⟩
  | .failed (e := e) ran others =>
    obtain ⟨broken, dropped, toRun'⟩ | ⟨rest', rfl, kept, toRun'⟩ := toRun.next rfl
    · -- the program that the other form lacks has done nothing, and its failure is left out there
      obtain ⟨-, unchanged⟩ := ran.of_startsUnknown (broken ▸ starts)
      have between := side.record_left (dropped e)
      rw [← unchanged] at between
      exact Responds.isolated others starts toRun' between
    · obtain ⟨d', ran', between⟩ := Runs.isolated ran starts side
      obtain ⟨d'', others', ends⟩ := Responds.isolated others starts toRun' (between.record (kept e))
      exact ⟨d'', .failed ran' others', ends⟩
termination_by structural h

theorem Runs.isolated {c c' d : Change} {q : Program} {r : RunState} {a : Except RuleError RunState}
    (h : Runs options (subscriptions.map (Subscription.withProgram field k p)) q r c a c')
    (starts : p.StartsUnknown) (side : Beside field k c d) :
    ∃ d', Runs options subscriptions q r d a d' ∧ Beside field k c' d' := by
  match h with
  | .left past => exact ⟨d, .left past, side⟩
  | .limit due spent => exact ⟨d, .limit due spent, side⟩
  | .failed due left executed =>
    obtain ⟨d', executed', ends⟩ := Executes.isolated executed starts side
    exact ⟨d', .failed due left executed', ends⟩
  | .next due left executed others =>
    obtain ⟨d', executed', between⟩ := Executes.isolated executed starts side
    obtain ⟨d'', others', ends⟩ := Runs.isolated others starts between
    exact ⟨d'', .next due left executed' others', ends⟩
termination_by structural h

theorem Executes.isolated {c c' d : Change} {r : RunState} {row : Row} {flow : Except RuleError Flow}
    (h : Executes options (subscriptions.map (Subscription.withProgram field k p)) r row c flow c')
    (starts : p.StartsUnknown) (side : Beside field k c d) :
    ∃ d', Executes options subscriptions r row d flow d' ∧ Beside field k c' d' := by
  match h with
  | .answer demands => exact ⟨d, .answer (side.demand.trans demands), side⟩
  | .write demands written =>
    obtain ⟨d', written', ends⟩ := Writes.isolated written starts side
    exact ⟨d', .write (side.demand.trans demands) written', ends⟩
  | .push demands =>
    rw [afterPush_push]
    exact ⟨_, executes_push (side.demand.trans demands), side.push _ _ _⟩
termination_by structural h

end

end Propagation

namespace Form

open Propagation

variable {f g : Form}

/-- **A broken program is isolated.** Take a definition and one that differs in one program more of a
field, whose first row has an unknown mnemonic. If the form of the one can be built then so can that of the
other. A change of two such forms in the same state ends with the same values and components, and the
journal without the program is that with it less its failures, where the programs behind it have the index
before. -/
theorem setValue_isolated (compiles : Program.compile source = .ok p) (unknown : p.StartsUnknown)
    (built : build d options = .ok f) (kin : Kin f g) :
    ∃ f', build (d.withProgram field k source) options = .ok f' ∧
      ∀ g', Kin f' g' → SameState g g' → ∀ name value,
        (name ∈ g.store.names → ∃ h j h' j', g.setValue name value = .ok (h, j) ∧
          g'.setValue name value = .ok (h', j') ∧ SameState h h' ∧ j = j'.without field k) ∧
        (name ∉ g.store.names → g.setValue name value = .error (.unknownField name) ∧
          g'.setValue name value = .error (.unknownField name)) := by
  obtain ⟨f', built', options, subscriptions⟩ := build_withProgram compiles built
  refine ⟨f', built', fun g' kin' same name value => ?_⟩
  have names : g'.store.names = g.store.names := by rw [same.store]
  constructor
  · intro declared
    rw [← names] at declared
    obtain ⟨c, course⟩ := exists_writes declared value
    have extended := course
    rw [kin'.options, options, ← kin.options, kin'.subscriptions, subscriptions,
      ← kin.subscriptions] at extended
    have start : Beside field k g'.change g.change := by
      rw [same.change_eq]
      exact ⟨rfl, rfl, rfl, by simp [change, Journal.without]⟩
    obtain ⟨c', course', ends⟩ := extended.isolated unknown start
    exact ⟨_, _, _, _, setValue_of_writes course', setValue_of_writes course,
      ⟨ends.store.symm, ends.registry.symm⟩, ends.journal⟩
  · intro undeclared
    refine ⟨setValue_of_undeclared undeclared value, setValue_of_undeclared ?_ value⟩
    rw [names]
    exact undeclared

/-- A clapper that follows the hour, with a program that is none, and a bell that follows both, sets the
hour and pushes the clapper to a lamp. -/
def chimes : FormDefinition where
  fields :=
    [{ name := "hour" },
     { name := "clapper", dependencies := some ["hour"], programs := some ["s clapper hour", "ring"] },
     { name := "bell", dependencies := some ["clapper", "hour"],
       programs := some ["s bell clapper;s hour bell", "sp lamp lit clapper"] }]

theorem chimes_isolated :
    Program.compile "toll;s bell hour" = .ok ⟨[⟨"toll", []⟩, ⟨"s", ["bell", "hour"]⟩]⟩ ∧
      (Program.mk [⟨"toll", []⟩, ⟨"s", ["bell", "hour"]⟩]).StartsUnknown ∧
      build chimes {} = .ok (assemble chimes {}) ∧
      ∃ f', build (chimes.withProgram "clapper" 1 "toll;s bell hour") {} = .ok f' ∧
        SameState (assemble chimes {}) f' ∧
        ∃ h j h' j', (assemble chimes {}).setValue "hour" (.text "x") = .ok (h, j) ∧
          f'.setValue "hour" (.text "x") = .ok (h', j') ∧ SameState h h' ∧
          j = j'.without "clapper" 1 ∧
          j.failures = [.failure "clapper" 1 (.unknownOpcode 0 "ring")] ∧
          j'.failures = [.failure "clapper" 1 (.unknownOpcode 0 "toll"),
            .failure "clapper" 2 (.unknownOpcode 0 "ring")] := by
  have compiles : Program.compile "toll;s bell hour" =
      .ok ⟨[⟨"toll", []⟩, ⟨"s", ["bell", "hour"]⟩]⟩ := by
    decide +kernel
  have unknown : (Program.mk [⟨"toll", []⟩, ⟨"s", ["bell", "hour"]⟩]).StartsUnknown :=
    ⟨⟨"toll", []⟩, rfl, by decide⟩
  have built : build chimes {} = .ok (assemble chimes {}) := by decide
  obtain ⟨f', built', alike⟩ := setValue_isolated compiles unknown built (.refl _)
  obtain ⟨-, rfl⟩ := of_build built'
  have same : SameState (assemble chimes {})
      (assemble (chimes.withProgram "clapper" 1 "toll;s bell hour") {}) :=
    ⟨by decide +kernel, rfl⟩
  obtain ⟨h, j, h', j', changed, changed', ends, journals⟩ :=
    (alike _ (.refl _) same "hour" (.text "x")).1 (by decide)
  have failures : ((assemble chimes {}).setValue "hour" (.text "x")).map (·.2.failures) =
      .ok [.failure "clapper" 1 (.unknownOpcode 0 "ring")] := by
    decide +kernel
  have failures' : ((assemble (chimes.withProgram "clapper" 1 "toll;s bell hour") {}).setValue "hour"
      (.text "x")).map (·.2.failures) =
      .ok [.failure "clapper" 1 (.unknownOpcode 0 "toll"),
        .failure "clapper" 2 (.unknownOpcode 0 "ring")] := by
    decide +kernel
  rw [changed] at failures
  rw [changed'] at failures'
  exact ⟨compiles, unknown, built, _, built', same, h, j, h', j', changed, changed', ends, journals,
    Except.ok.inj failures, Except.ok.inj failures'⟩

end Form

end Formulary
