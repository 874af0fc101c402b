import Mathlib.Data.List.Nodup
import Mathlib.Data.List.Perm.Subperm
import Formulary.Proofs.Rule.Path

/-!
# Runs that judge

In validation context no row asks its host for anything, so the host stays as it is and a row comes to
the same whenever it runs. Hence the end of a run depends on the values its operands read and on
nothing else (`loop_congr`), an error is a defect of its program unless it is the step limit
(`mayFail_of_loop`), and a run that ends in time executes no row twice (`nodup_path`): from a row
executed again it would go on as it did the first time.
-/

namespace Formulary.Machine

variable {σ τ : Type} {host : Host σ} {other : Host τ} {options : RunOptions} {p : Program}
  {r r' : RunState} {s s' : σ} {t : τ} {row : Row} {index : Nat} {relation : Relation}
  {context : Context}

/-- A row that judges asks its host for nothing. -/
theorem demand_validation (host : Host σ) (relation : Relation) (s : σ) (index : Nat) (row : Row) :
    ∃ flow, demand host relation .validation s index row = .answer flow := by
  cases demands : demand host relation .validation s index row with
  | answer flow => exact ⟨flow, rfl⟩
  | write target value =>
    obtain ⟨-, permitted, -⟩ := of_demand_write demands
    cases permitted
  | push target property value =>
    obtain ⟨-, permitted, -⟩ := of_demand_push demands
    cases permitted

theorem host_of_execute {a : Except RuleError Flow} (judging : context = .validation)
    (executed : execute host relation context s index row = (a, s')) : s' = s := by
  subst judging
  obtain ⟨flow, answers⟩ := demand_validation host relation s index row
  rw [execute_eq_settle, answers] at executed
  cases executed
  rfl

/-- It comes to the same on every host where its operands read the same. -/
theorem execute_congr {a : Except RuleError Flow} (judging : context = .validation)
    (reads : ∀ operand ∈ row.valueOperands, host.read s operand = other.read t operand)
    (executed : execute host relation context s index row = (a, s')) :
    execute other relation context t index row = (a, t) := by
  subst judging
  obtain ⟨flow, answers⟩ := demand_validation host relation s index row
  rw [execute_eq_settle, answers] at executed
  rw [execute_eq_settle, ← demand_congr reads, answers]
  cases executed
  rfl

/-- **A run that judges depends on what its operands read and on nothing else.** -/
theorem loop_congr : ∀ budget r s, r.context = .validation →
    (∀ row ∈ p.rows, ∀ operand ∈ row.valueOperands, host.read s operand = other.read t operand) →
      (loop other options p budget r t).1 = (loop host options p budget r s).1 := by
  refine loop_induction host options p ?left ?limit ?failed ?next
  case left =>
    intro budget r s past judging reads
    rw [loop_of_left past, loop_of_left past]
  case limit =>
    intro r s row due judging reads
    rw [loop_of_limit due, loop_of_limit due]
  case failed =>
    intro budget r s row e s' due executed judging reads
    have executed' := execute_congr judging (reads row (List.mem_of_getElem? due)) executed
    rw [loop_of_failed due executed, loop_of_failed due executed']
  case next =>
    intro budget r s row flow s' due executed ih judging reads
    have executed' := execute_congr judging (reads row (List.mem_of_getElem? due)) executed
    obtain rfl := host_of_execute judging executed
    rw [loop_of_next due executed, loop_of_next due executed']
    exact ih (by rw [context_advance, judging]) reads

/-- **A run that judges fails at the step limit or because of a defect of its program**, given names
of fields the host declares. -/
theorem mayFail_of_loop {names : List String} {e : RuleError} : ∀ budget r s,
    r.context = .validation → (∀ name ∈ names, (host.read s name).isSome = true) →
    (loop host options p budget r s).1 = .error e → p.MayFail options .validation names e := by
  refine loop_induction host options p ?left ?limit ?failed ?next
  case left =>
    intro budget r s past judging declared ended
    rw [loop_of_left past] at ended
    cases ended
  case limit =>
    intro r s row due judging declared ended
    rw [loop_of_limit due] at ended
    cases ended
    exact .inl rfl
  case failed =>
    intro budget r s row e' s' due executed judging declared ended
    rw [loop_of_failed due executed] at ended
    cases ended
    rw [judging, execute_eq_settle] at executed
    obtain ⟨flow, answers⟩ := demand_validation host options.relation s r.row row
    rw [answers] at executed
    cases executed
    exact .inr ⟨r.row, row, due, defect_of_demand declared answers⟩
  case next =>
    intro budget r s row flow s' due executed ih judging declared ended
    obtain rfl := host_of_execute judging executed
    rw [loop_of_next due executed] at ended
    exact ih (by rw [context_advance, judging]) declared ended

/-! ## No row twice -/

theorem row_advance {length : Nat} {flow : Flow} (same : r'.row = r.row) :
    (advance length r' flow).row = (advance length r flow).row := by
  cases flow <;> simp [advance, same]

/-- What a run that judges executes from a row on, the row determines. -/
theorem path_congr : ∀ budget r s budget' r', r.context = .validation → r'.context = .validation →
    r'.row = r.row → InTime (loop host options p budget r s).1 →
    InTime (loop host options p budget' r' s).1 →
      path host options.relation p budget' r' s = path host options.relation p budget r s := by
  refine loop_induction host options p ?left ?limit ?failed ?next
  case left =>
    intro budget r s past budget' r' judging judging' same inTime inTime'
    rw [path_of_left past, path_of_left (by rw [same, past])]
  case limit =>
    intro r s row due budget' r' judging judging' same inTime inTime'
    rw [loop_of_limit due] at inTime
    exact (inTime _ rfl).elim
  case failed =>
    intro budget r s row e s' due executed budget' r' judging judging' same inTime inTime'
    have due' : p.rows[r'.row]? = some row := by rw [same, due]
    have executed' : execute host options.relation r'.context s r'.row row = (.error e, s') := by
      rw [judging', same, ← judging, executed]
    cases budget' with
    | zero =>
      rw [loop_of_limit due'] at inTime'
      exact (inTime' _ rfl).elim
    | succ budget' => rw [path_of_failed due executed, path_of_failed due' executed', same]
  case next =>
    intro budget r s row flow s' due executed ih budget' r' judging judging' same inTime inTime'
    have due' : p.rows[r'.row]? = some row := by rw [same, due]
    have executed' : execute host options.relation r'.context s r'.row row = (.ok flow, s') := by
      rw [judging', same, ← judging, executed]
    obtain rfl := host_of_execute judging executed
    cases budget' with
    | zero =>
      rw [loop_of_limit due'] at inTime'
      exact (inTime' _ rfl).elim
    | succ budget' =>
      rw [loop_of_next due executed] at inTime
      rw [loop_of_next due' executed'] at inTime'
      have rest := ih budget' (advance p.length r' flow) (by rw [context_advance, judging])
        (by rw [context_advance, judging']) (row_advance same) inTime inTime'
      rw [path_of_next due executed, path_of_next due' executed', rest, same]

/-- At every row it executes a run that judges stands where another might start and end alike. -/
theorem resume_of_mem_path : ∀ budget r s, r.context = .validation →
    ∀ i ∈ path host options.relation p budget r s, ∃ budget' r', r'.context = .validation ∧
      r'.row = i ∧ loop host options p budget' r' s = loop host options p budget r s ∧
      path host options.relation p budget' r' s <:+ path host options.relation p budget r s := by
  refine loop_induction host options p ?left ?limit ?failed ?next
  case left =>
    intro budget r s past judging i mem
    rw [path_of_left past] at mem
    cases mem
  case limit =>
    intro r s row due judging i mem
    cases mem
  case failed =>
    intro budget r s row e s' due executed judging i mem
    rw [path_of_failed due executed, List.mem_singleton] at mem
    exact ⟨budget + 1, r, judging, mem.symm, rfl, List.suffix_rfl⟩
  case next =>
    intro budget r s row flow s' due executed ih judging i mem
    obtain rfl := host_of_execute judging executed
    rw [path_of_next due executed, List.mem_cons] at mem
    rcases mem with rfl | later
    · exact ⟨budget + 1, r, judging, rfl, rfl, List.suffix_rfl⟩
    · obtain ⟨budget', r', judging', back, ended, suffix⟩ :=
        ih (by rw [context_advance, judging]) i later
      refine ⟨budget', r', judging', back, ?_, ?_⟩
      · rw [ended, loop_of_next due executed]
      · rw [path_of_next due executed]
        exact suffix.trans (List.suffix_cons _ _)

/-- **A run that judges and ends in time executes no row twice.** -/
theorem nodup_path : ∀ budget r s, r.context = .validation →
    InTime (loop host options p budget r s).1 → (path host options.relation p budget r s).Nodup := by
  refine loop_induction host options p ?left ?limit ?failed ?next
  case left =>
    intro budget r s past judging inTime
    rw [path_of_left past]
    exact List.nodup_nil
  case limit =>
    intro r s row due judging inTime
    exact List.nodup_nil
  case failed =>
    intro budget r s row e s' due executed judging inTime
    rw [path_of_failed due executed]
    exact List.nodup_singleton _
  case next =>
    intro budget r s row flow s' due executed ih judging inTime
    obtain rfl := host_of_execute judging executed
    have whole : path host options.relation p (budget + 1) r s' =
        r.row :: path host options.relation p budget (advance p.length r flow) s' :=
      path_of_next due executed
    have judging' : (advance p.length r flow).context = .validation := by
      rw [context_advance, judging]
    have inTime' := inTime
    rw [loop_of_next due executed] at inTime'
    rw [whole]
    refine List.nodup_cons.2 ⟨fun again => ?_, ih judging' inTime'⟩
    -- back at the row, as much would have to follow as followed it the first time
    obtain ⟨budget', r', judging'', back, ended, suffix⟩ := resume_of_mem_path _ _ _ judging' _ again
    rw [← ended] at inTime'
    have same := path_congr (budget + 1) r s' budget' r' judging judging'' back inTime inTime'
    have shorter := suffix.length_le
    rw [same, whole, List.length_cons] at shorter
    omega

/-- So it executes at most as many rows as the program has. -/
theorem length_path_le {budget : Nat} (judging : r.context = .validation)
    (inTime : InTime (loop host options p budget r s).1) :
    (path host options.relation p budget r s).length ≤ p.length := by
  have distinct := nodup_path budget r s judging inTime
  have within : path host options.relation p budget r s ⊆ List.range p.length := fun i mem =>
    List.mem_range.2 (lt_length_of_mem_path budget r s i mem)
  have short := (List.subperm_of_subset distinct within).length_le
  rwa [List.length_range] at short

/-- **A run that judges comes to the same end under every limit that leaves as many steps as the
program has rows**, and hits each of them if it hits one. -/
theorem loop_of_length_le {options' : RunOptions} {budget budget' : Nat}
    (same : options'.relation = options.relation) (judging : r.context = .validation)
    (enough : p.length ≤ budget) (enough' : p.length ≤ budget') :
    ((loop host options p budget r s).1 = .error (.stepLimit options.maxSteps) ∧
      (loop host options' p budget' r s).1 = .error (.stepLimit options'.maxSteps)) ∨
    (InTime (loop host options p budget r s).1 ∧
      loop host options' p budget' r s = loop host options p budget r s) := by
  by_cases stopped : (loop host options p budget r s).1 = .error (.stepLimit options.maxSteps)
  · refine .inl ⟨stopped, ?_⟩
    by_contra other
    have inTime := inTime_of_ne other
    have short := length_path_le judging inTime
    have ends := loop_of_enough same.symm budget' r s budget inTime (Nat.le_trans short enough)
    rw [← ends] at inTime
    exact inTime _ stopped
  · have inTime := inTime_of_ne stopped
    have short := length_path_le judging inTime
    exact .inr ⟨inTime, loop_of_enough same budget r s budget' inTime (Nat.le_trans short enough')⟩

end Formulary.Machine
