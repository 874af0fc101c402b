import Formulary.Proofs.Rule.Path
import Formulary.Proofs.Setup

/-!
# The step limit of a change

Every run of a change is held to the step limit by itself, also those that are suspended inside one
another, and it tests the limit before each row. A run that the limit does not stop goes the same way
under a greater limit, and one that it stops is told of in the journal. So a course whose journal tells of
no such run is a course under every greater limit (`Writes.raised`).
-/

namespace Formulary

namespace RuleError

theorem kind_eq_iff_stepLimit {e : RuleError} :
    e.kind = "step-limit-exceeded" ↔ ∃ limit, e = .stepLimit limit := by
  cases e <;> simp [kind]

end RuleError

namespace Journal

variable {j : Journal} {event : JournalEntry} {field : String} {program : Nat} {e : RuleError}

/-- No program failed because of the step limit. -/
def InTime (j : Journal) : Prop :=
  ∀ field program error, .failure field program error ∈ j.toList → error.kind ≠ "step-limit-exceeded"

theorem InTime.of_record (h : (j.record event).InTime) : j.InTime := by
  intro field program error mem
  apply h field program error
  rw [toList_record]
  exact List.mem_append_left _ mem

theorem InTime.record (h : j.InTime)
    (other : ∀ field program limit, event ≠ .failure field program (.stepLimit limit)) :
    (j.record event).InTime := by
  intro field program error mem stopped
  rw [toList_record] at mem
  obtain earlier | last := List.mem_append.1 mem
  · exact h field program error earlier stopped
  · obtain ⟨limit, rfl⟩ := RuleError.kind_eq_iff_stepLimit.1 stopped
    exact other field program limit (List.mem_singleton.1 last).symm

theorem InTime.ne_stepLimit (h : (j.record (.failure field program e)).InTime) (limit : Nat) :
    e ≠ .stepLimit limit := by
  intro stopped
  apply h field program e
  · rw [toList_record]
    exact List.mem_append_right _ (List.mem_singleton_self _)
  · exact RuleError.kind_eq_iff_stepLimit.2 ⟨limit, stopped⟩

end Journal

namespace Propagation

variable {options options' : RunOptions} {subscriptions : List Subscription}

theorem inTime_of_push {c : Change} {target property : String} {value : Value}
    (h : (c.push target property value).2.journal.InTime) : c.journal.InTime := by
  rcases c.push_cases target property value with ⟨registry, -, pushed⟩ | ⟨-, pushed⟩
  · rw [pushed] at h
    exact h.of_record
  · rw [pushed] at h
    exact h.of_record

/-! ## Courses under a greater limit

The induction goes from the end of a course to its start: that no run was stopped is known of the last
journal, and the journals before it tell less. -/

mutual

/-- **A course that the limit did not stop anywhere is a course under every greater limit.** -/
theorem Writes.raised {c c' : Change} {name : String} {value : Value} {o : WriteOutcome}
    (h : Writes options subscriptions c name value o c') (more : options.maxSteps ≤ options'.maxSteps)
    (same : options'.relation = options.relation) (inTime : c'.journal.InTime) :
    Writes options' subscriptions c name value o c' ∧ c.journal.InTime := by
  match h with
  | .unknown undeclared => exact ⟨.unknown undeclared, inTime⟩
  | .suppressed declared busy => exact ⟨.suppressed declared busy, inTime.of_record⟩
  | .applied set free notified =>
    obtain ⟨notified', before⟩ := Notifies.raised notified more same inTime
    exact ⟨.applied set free notified', before.of_record⟩
termination_by structural h

theorem Notifies.raised {c c' : Change} {ss : List Subscription}
    (h : Notifies options subscriptions ss c c') (more : options.maxSteps ≤ options'.maxSteps)
    (same : options'.relation = options.relation) (inTime : c'.journal.InTime) :
    Notifies options' subscriptions ss c c' ∧ c.journal.InTime := by
  match h with
  | .nil => exact ⟨.nil, inTime⟩
  | .cons first others =>
    obtain ⟨others', between⟩ := Notifies.raised others more same inTime
    obtain ⟨first', before⟩ := Responds.raised first more same between
    exact ⟨.cons first' others', before⟩
termination_by structural h

theorem Responds.raised {c c' : Change} {field : String} {index : Nat} {ps : List Program}
    (h : Responds options subscriptions field index ps c c')
    (more : options.maxSteps ≤ options'.maxSteps) (same : options'.relation = options.relation)
    (inTime : c'.journal.InTime) :
    Responds options' subscriptions field index ps c c' ∧ c.journal.InTime := by
  match h with
  | .nil => exact ⟨.nil, inTime⟩
  | .finished ran others =>
    obtain ⟨others', between⟩ := Responds.raised others more same inTime
    obtain ⟨ran', before⟩ := Runs.raised ran more same (fun limit => by simp) between
    exact ⟨.finished ran' others', before⟩
  | .failed (e := e) ran others =>
    obtain ⟨others', behind⟩ := Responds.raised others more same inTime
    have ended : Machine.InTime (.error e : Except RuleError RunState) := by
      intro limit stopped
      exact behind.ne_stepLimit limit (Except.error.inj stopped)
    obtain ⟨ran', before⟩ := Runs.raised ran more same ended behind.of_record
    exact ⟨.failed ran' others', before⟩
termination_by structural h

theorem Runs.raised {p : Program} {r : RunState} {c c' : Change} {a : Except RuleError RunState}
    (h : Runs options subscriptions p r c a c') (more : options.maxSteps ≤ options'.maxSteps)
    (same : options'.relation = options.relation) (ended : Machine.InTime a)
    (inTime : c'.journal.InTime) :
    Runs options' subscriptions p r c a c' ∧ c.journal.InTime := by
  match h with
  | .left past => exact ⟨.left past, inTime⟩
  | .limit _ _ => exact (ended _ rfl).elim
  | .failed due left executed =>
    obtain ⟨executed', before⟩ := Executes.raised executed more same inTime
    exact ⟨.failed due (Nat.lt_of_lt_of_le left more) executed', before⟩
  | .next due left executed others =>
    obtain ⟨others', between⟩ := Runs.raised others more same ended inTime
    obtain ⟨executed', before⟩ := Executes.raised executed more same between
    exact ⟨.next due (Nat.lt_of_lt_of_le left more) executed' others', before⟩
termination_by structural h

theorem Executes.raised {r : RunState} {row : Row} {c c' : Change} {f : Except RuleError Flow}
    (h : Executes options subscriptions r row c f c') (more : options.maxSteps ≤ options'.maxSteps)
    (same : options'.relation = options.relation) (inTime : c'.journal.InTime) :
    Executes options' subscriptions r row c f c' ∧ c.journal.InTime := by
  match h with
  | .answer demands => exact ⟨.answer (by rw [same]; exact demands), inTime⟩
  | .write demands written =>
    obtain ⟨written', before⟩ := Writes.raised written more same inTime
    exact ⟨.write (by rw [same]; exact demands) written', before⟩
  | .push demands => exact ⟨.push (by rw [same]; exact demands), inTime_of_push inTime⟩
termination_by structural h

end

end Propagation

namespace Form

open Propagation

variable {d : FormDefinition} {f f' g g' : Form}

/-- The rules of a form do not depend on the options it is built with. -/
theorem build_options {options options' : RunOptions} (built : build d options = .ok f)
    (built' : build d options' = .ok f') : f' = { f with options := options' } := by
  obtain ⟨-, rfl⟩ := of_build built
  obtain ⟨-, rfl⟩ := of_build built'
  rfl

/-- **Raising the step limit only matters where it was hit.** Take two forms of one definition, in the
same state, one under a limit and one under a greater one. If the journal of a change under the lesser
limit tells of no program that hit it, then the journal under the greater one is the same, and so are the
values and the components in the end. What is refused under the one is refused under the other. -/
theorem setValue_of_raised {relation : Relation} {limit limit' : Nat} (more : limit ≤ limit')
    (built : build d ⟨limit, relation⟩ = .ok f) (built' : build d ⟨limit', relation⟩ = .ok f')
    (kin : Kin f g) (kin' : Kin f' g') (same : SameState g g') (name : String) (value : Value) :
    (∀ h j, g.setValue name value = .ok (h, j) → j.InTime →
      ∃ h', g'.setValue name value = .ok (h', j) ∧ SameState h h') ∧
    ∀ e, g.setValue name value = .error e → g'.setValue name value = .error e := by
  have rules : f' = { f with options := ⟨limit', relation⟩ } := build_options built built'
  obtain ⟨-, assembled⟩ := of_build built
  have options : g.options = ⟨limit, relation⟩ := by
    rw [kin.options, assembled]
    rfl
  have options' : g'.options = ⟨limit', relation⟩ := by rw [kin'.options, rules]
  have subscriptions : g'.subscriptions = g.subscriptions := by
    rw [kin'.subscriptions, kin.subscriptions, rules]
  constructor
  · intro h j changed inTime
    obtain ⟨c, course⟩ := exists_writes (declared_of_setValue changed) value
    rw [setValue_of_writes course] at changed
    cases changed
    have raised : Writes g'.options g'.subscriptions g'.change name value .applied c := by
      rw [subscriptions, same.change_eq]
      apply (course.raised _ _ inTime).1
      · rw [options, options']
        exact more
      · rw [options, options']
    exact ⟨_, setValue_of_writes raised, rfl, rfl⟩
  · intro e refused
    obtain ⟨undeclared, rfl⟩ := undeclared_of_setValue refused
    apply setValue_of_undeclared
    rw [same.store]
    exact undeclared

/-- A field copied to a second and from there to a third, whose program jumps over a row that is none,
writes back and pushes what it copied; each run takes at most four rows. -/
def ferry : FormDefinition where
  fields :=
    [{ name := "dock" },
     { name := "deck", dependencies := some ["dock"], programs := some ["s deck dock", "ring"] },
     { name := "shore", dependencies := some ["deck"],
       programs := some ["jrgt 2 1 2;ring;s shore deck;s dock shore;sp lamp lit shore"] }]

theorem ferry_raised :
    build ferry ⟨4, .greater⟩ = .ok (assemble ferry ⟨4, .greater⟩) ∧
      build ferry ⟨1000, .greater⟩ = .ok (assemble ferry ⟨1000, .greater⟩) ∧
      ∃ h h' j, (assemble ferry ⟨4, .greater⟩).setValue "dock" (.text "x") = .ok (h, j) ∧ j.InTime ∧
        (assemble ferry ⟨1000, .greater⟩).setValue "dock" (.text "x") = .ok (h', j) ∧
        SameState h h' := by
  have built : build ferry ⟨4, .greater⟩ = .ok (assemble ferry ⟨4, .greater⟩) := by decide
  have built' : build ferry ⟨1000, .greater⟩ = .ok (assemble ferry ⟨1000, .greater⟩) := by decide
  have changed : (assemble ferry ⟨4, .greater⟩).setValue "dock" (.text "x") =
      .ok ({ assemble ferry ⟨4, .greater⟩ with
        store := ⟨[("dock", .text "x"), ("deck", .text "x"), ("shore", .text "x")]⟩ },
        ⟨#[.write "dock" (.text "x") 0, .write "deck" (.text "x") 1, .write "shore" (.text "x") 2,
          .suppressed "dock" (.text "x"), .noBinding "lamp" "lit",
          .failure "deck" 1 (.unknownOpcode 0 "ring")]⟩) := by
    decide +kernel
  have inTime : Journal.InTime
      ⟨#[.write "dock" (.text "x") 0, .write "deck" (.text "x") 1, .write "shore" (.text "x") 2,
        .suppressed "dock" (.text "x"), .noBinding "lamp" "lit",
        .failure "deck" 1 (.unknownOpcode 0 "ring")]⟩ := by
    intro field program error mem
    simp only [Journal.toList, List.mem_cons, List.not_mem_nil, JournalEntry.failure.injEq,
      reduceCtorEq, false_or, or_false] at mem
    obtain ⟨-, -, rfl⟩ := mem
    decide
  obtain ⟨h', changed', ends⟩ := (setValue_of_raised (by decide) built built' (.refl _) (.refl _)
    ⟨rfl, rfl⟩ "dock" (.text "x")).1 _ _ changed inTime
  exact ⟨built, built', _, h', _, changed, inTime, changed', ends⟩

end Form

end Formulary
