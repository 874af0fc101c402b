import Formulary.Proofs.Rule.Defect
import Formulary.Proofs.Rule.Loop

/-!
# The rows a run executes

`Machine.path` lists the rows that `Machine.loop` executes, in order. The counter of a run counts them
(`steps_of_loop`), and a run that ends before its limit stops it depends on the limit no further: with
any other that leaves as many steps as the path is long it comes to the same end (`loop_of_enough`), with
one that leaves fewer it is stopped (`loop_of_short`).
-/

namespace Formulary.Machine

variable {σ : Type} {host : Host σ} {options options' : RunOptions} {p : Program} {r : RunState}
  {s s' : σ} {row : Row} {flow : Flow} {e : RuleError} {budget : Nat}

/-- The rows that `loop` executes, in order, one that fails included. -/
def path (host : Host σ) (relation : Relation) (p : Program) :
    (budget : Nat) → RunState → σ → List Nat
  | 0, _, _ => []
  | budget + 1, r, s =>
    match p.rows[r.row]? with
    | none => []
    | some row =>
      r.row :: match execute host relation r.context s r.row row with
        | (.error _, _) => []
        | (.ok flow, s) => path host relation p budget (advance p.length r flow) s

/-- The rows that `run` executes, in order. -/
def runPath (host : Host σ) (options : RunOptions) (p : Program) (r : RunState) (s : σ) : List Nat :=
  path host options.relation p (options.maxSteps - r.steps) { r with row := 0 } s

/-- A run was not stopped by the step limit. -/
def InTime (a : Except RuleError RunState) : Prop :=
  ∀ limit, a ≠ .error (.stepLimit limit)

theorem path_of_left (past : p.rows[r.row]? = none) :
    path host options.relation p budget r s = [] := by
  cases budget <;> simp only [path, past]

theorem path_of_failed (due : p.rows[r.row]? = some row)
    (executed : execute host options.relation r.context s r.row row = (.error e, s')) :
    path host options.relation p (budget + 1) r s = [r.row] := by
  simp only [path, due, executed]

theorem path_of_next (due : p.rows[r.row]? = some row)
    (executed : execute host options.relation r.context s r.row row = (.ok flow, s')) :
    path host options.relation p (budget + 1) r s =
      r.row :: path host options.relation p budget (advance p.length r flow) s' := by
  simp only [path, due, executed]

/-! ## The step limit -/

/-- No row hits the step limit: that is the loop's to say. -/
theorem execute_ne_stepLimit {context : Context} {index limit : Nat}
    (executed : execute host options.relation context s index row = (.error e, s')) :
    e ≠ .stepLimit limit := by
  rw [execute_eq_settle] at executed
  cases demands : demand host options.relation context s index row with
  | answer flow =>
    rw [demands] at executed
    cases executed
    have defect : Row.Defect context [] index row e := defect_of_demand (by simp) demands
    exact defect.ne_stepLimit limit
  | write target value =>
    rw [demands] at executed
    have refused : afterWrite index target (host.write s target value).1 = .error e :=
      congrArg Prod.fst executed
    unfold afterWrite at refused
    split at refused <;> cases refused <;> simp
  | push target property value =>
    rw [demands] at executed
    have refused : afterPush index (host.push s target property value).1 = .error e :=
      congrArg Prod.fst executed
    unfold afterPush at refused
    split at refused <;> cases refused
    simp

/-- A run stopped by a step limit was stopped by its own. -/
theorem limit_of_loop {limit : Nat} : ∀ budget r s,
    (loop host options p budget r s).1 = .error (.stepLimit limit) → limit = options.maxSteps := by
  refine loop_induction host options p ?left ?limit ?failed ?next
  case left =>
    intro budget r s past stopped
    rw [loop_of_left past] at stopped
    cases stopped
  case limit =>
    intro r s row due stopped
    rw [loop_of_limit due] at stopped
    cases stopped
    rfl
  case failed =>
    intro budget r s row e s' due executed stopped
    rw [loop_of_failed due executed] at stopped
    cases stopped
    exact (execute_ne_stepLimit executed rfl).elim
  case next =>
    intro budget r s row flow s' due executed ih stopped
    rw [loop_of_next due executed] at stopped
    exact ih stopped

/-- So a run is in time unless its own limit stopped it. -/
theorem inTime_of_ne (other : (loop host options p budget r s).1 ≠ .error (.stepLimit options.maxSteps)) :
    InTime (loop host options p budget r s).1 := by
  intro limit stopped
  have own := limit_of_loop budget r s stopped
  subst own
  exact other stopped

/-- **With enough steps left a run ends as with any other number that is enough**, whatever its host:
enough is as many as its path is long. -/
theorem loop_of_enough (same : options'.relation = options.relation) : ∀ budget r s budget',
    InTime (loop host options p budget r s).1 →
    (path host options.relation p budget r s).length ≤ budget' →
      loop host options' p budget' r s = loop host options p budget r s := by
  refine loop_induction host options p ?left ?limit ?failed ?next
  case left =>
    intro budget r s past budget' inTime enough
    rw [loop_of_left past, loop_of_left past]
  case limit =>
    intro r s row due budget' inTime enough
    rw [loop_of_limit due] at inTime
    exact (inTime _ rfl).elim
  case failed =>
    intro budget r s row e s' due executed budget' inTime enough
    rw [path_of_failed due executed] at enough
    obtain ⟨budget', rfl⟩ := Nat.exists_eq_add_of_le' enough
    have executed' : execute host options'.relation r.context s r.row row = (.error e, s') := by
      rw [same, executed]
    rw [List.length_singleton, loop_of_failed due executed, loop_of_failed due executed']
  case next =>
    intro budget r s row flow s' due executed ih budget' inTime enough
    rw [path_of_next due executed, List.length_cons] at enough
    obtain ⟨budget', rfl⟩ := Nat.exists_eq_add_of_le' (Nat.le_of_add_left_le enough)
    have executed' : execute host options'.relation r.context s r.row row = (.ok flow, s') := by
      rw [same, executed]
    rw [loop_of_next due executed] at inTime
    rw [loop_of_next due executed, loop_of_next due executed']
    exact ih budget' inTime (by omega)

/-- With fewer steps left it is stopped by the step limit. -/
theorem loop_of_short (same : options'.relation = options.relation) : ∀ budget r s budget',
    budget' < (path host options.relation p budget r s).length →
      (loop host options' p budget' r s).1 = .error (.stepLimit options'.maxSteps) := by
  refine loop_induction host options p ?left ?limit ?failed ?next
  case left =>
    intro budget r s past budget' short
    rw [path_of_left past] at short
    exact (Nat.not_lt_zero _ short).elim
  case limit =>
    intro r s row due budget' short
    exact (Nat.not_lt_zero _ short).elim
  case failed =>
    intro budget r s row e s' due executed budget' short
    rw [path_of_failed due executed, List.length_singleton] at short
    obtain rfl : budget' = 0 := by omega
    rw [loop_of_limit due]
  case next =>
    intro budget r s row flow s' due executed ih budget' short
    cases budget' with
    | zero => rw [loop_of_limit due]
    | succ budget' =>
      rw [path_of_next due executed, List.length_cons] at short
      have executed' : execute host options'.relation r.context s r.row row = (.ok flow, s') := by
        rw [same, executed]
      rw [loop_of_next due executed']
      exact ih budget' (by omega)

/-! ## The counter -/

/-- The counter of a run that ends without an error has counted the rows executed. -/
theorem steps_of_loop : ∀ budget r s r' s', loop host options p budget r s = (.ok r', s') →
    r'.steps = r.steps + (path host options.relation p budget r s).length := by
  refine loop_induction host options p ?left ?limit ?failed ?next
  case left =>
    intro budget r s past r' s' ended
    rw [loop_of_left past] at ended
    cases ended
    rw [path_of_left past]
    rfl
  case limit =>
    intro r s row due r' s' ended
    rw [loop_of_limit due] at ended
    cases ended
  case failed =>
    intro budget r s row e t due executed r' s' ended
    rw [loop_of_failed due executed] at ended
    cases ended
  case next =>
    intro budget r s row flow t due executed ih r' s' ended
    rw [loop_of_next due executed] at ended
    rw [ih r' s' ended, path_of_next due executed, steps_advance, List.length_cons]
    omega

/-- A path stays in the program. -/
theorem lt_length_of_mem_path : ∀ budget r s, ∀ i ∈ path host options.relation p budget r s,
    i < p.length := by
  refine loop_induction host options p ?left ?limit ?failed ?next
  case left =>
    intro budget r s past i mem
    rw [path_of_left past] at mem
    cases mem
  case limit =>
    intro r s row due i mem
    cases mem
  case failed =>
    intro budget r s row e s' due executed i mem
    rw [path_of_failed due executed, List.mem_singleton] at mem
    exact mem ▸ (List.getElem?_eq_some_iff.1 due).1
  case next =>
    intro budget r s row flow s' due executed ih i mem
    rw [path_of_next due executed, List.mem_cons] at mem
    rcases mem with rfl | later
    · exact (List.getElem?_eq_some_iff.1 due).1
    · exact ih i later

end Formulary.Machine
