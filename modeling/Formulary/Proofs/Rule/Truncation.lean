import Formulary.Proofs.Rule.Jump
import Formulary.Proofs.Rule.Path

/-!
# What the step limit cuts off

`Machine.after` follows a run row by row and knows no limit: it says where the run stands behind so many
rows, if it gets that far. A run under a limit is as much of it as the steps left allow. It executes the first
rows of that run (`getElem?_path`), is stopped exactly if a row is still due behind them
(`loop_eq_stepLimit_iff`), and under a greater limit goes on from where it was stopped (`loop_of_after`).
What it asks of its host, which `Host.logged` writes down, is therefore the start of what it would ask.
-/

namespace Formulary

/-- What a program asks of its host besides values. -/
inductive Host.Request where
  | write (target : String) (value : Value)
  | push (target property : String) (value : Value)
deriving DecidableEq, Repr

/-- The host, with a log of the requests put to it. -/
def Host.logged {σ : Type} (host : Host σ) : Host (σ × List Host.Request) where
  read s name := host.read s.1 name
  write s target value :=
    let (outcome, t) := host.write s.1 target value
    (outcome, t, s.2 ++ [.write target value])
  push s target property value :=
    let (outcome, t) := host.push s.1 target property value
    (outcome, t, s.2 ++ [.push target property value])

namespace Machine

variable {σ : Type} {host : Host σ} {options options' : RunOptions} {p : Program} {r r' : RunState}
  {s s' : σ} {row : Row} {flow : Flow} {e : RuleError} {relation : Relation} {budget n : Nat}

/-- Where a run stands behind so many more rows: none if it is over or fails before. -/
def after (host : Host σ) (relation : Relation) (p : Program) :
    Nat → RunState → σ → Option (RunState × σ)
  | 0, r, s => some (r, s)
  | n + 1, r, s =>
    match p.rows[r.row]? with
    | none => none
    | some row =>
      match execute host relation r.context s r.row row with
      | (.error _, _) => none
      | (.ok flow, s) => after host relation p n (advance p.length r flow) s

theorem after_of_left (past : p.rows[r.row]? = none) : after host relation p (n + 1) r s = none := by
  simp only [after, past]

theorem after_of_failed (due : p.rows[r.row]? = some row)
    (executed : execute host relation r.context s r.row row = (.error e, s')) :
    after host relation p (n + 1) r s = none := by
  simp only [after, due, executed]

theorem after_of_next (due : p.rows[r.row]? = some row)
    (executed : execute host relation r.context s r.row row = (.ok flow, s')) :
    after host relation p (n + 1) r s = after host relation p n (advance p.length r flow) s' := by
  simp only [after, due, executed]

/-- What is so many rows ahead is one row less ahead of the row behind the next. -/
theorem of_after_succ {t : RunState × σ} (h : after host relation p (n + 1) r s = some t) :
    ∃ row flow s', p.rows[r.row]? = some row ∧
      execute host relation r.context s r.row row = (.ok flow, s') ∧
      after host relation p n (advance p.length r flow) s' = some t := by
  cases due : p.rows[r.row]? with
  | none =>
    rw [after_of_left due] at h
    cases h
  | some row =>
    rcases executed : execute host relation r.context s r.row row with ⟨answer, s'⟩
    cases answer with
    | error e =>
      rw [after_of_failed due executed] at h
      cases h
    | ok flow =>
      rw [after_of_next due executed] at h
      exact ⟨row, flow, s', rfl, executed, h⟩

/-- The counter counts the rows. -/
theorem steps_of_after : ∀ n r s, after host relation p n r s = some (r', s') → r'.steps = r.steps + n := by
  intro n
  induction n with
  | zero =>
    intro r s h
    cases h
    rfl
  | succ n ih =>
    intro r s h
    obtain ⟨row, flow, t, -, -, ahead⟩ := of_after_succ h
    rw [ih _ _ ahead, steps_advance]
    omega

/-! ## The rows executed -/

/-- **A run executes the first rows of the run that knows no limit**, as many as it has steps left. -/
theorem getElem?_path {i : Nat} : ∀ budget r s n,
    (path host options.relation p budget r s)[n]? = some i ↔ n < budget ∧ i < p.length ∧
      ∃ r' s', after host options.relation p n r s = some (r', s') ∧ r'.row = i := by
  refine loop_induction host options p ?left ?limit ?failed ?next
  case left =>
    intro budget r s past n
    rw [path_of_left past]
    constructor
    · intro found
      cases found
    · rintro ⟨-, inside, r', s', ahead, rfl⟩
      cases n with
      | zero =>
        cases ahead
        rw [List.getElem?_eq_getElem inside] at past
        cases past
      | succ n =>
        rw [after_of_left past] at ahead
        cases ahead
  case limit =>
    intro r s row due n
    constructor
    · intro found
      cases found
    · rintro ⟨short, -⟩
      exact (Nat.not_lt_zero _ short).elim
  case failed =>
    intro budget r s row e s' due executed n
    have inside := (List.getElem?_eq_some_iff.1 due).1
    rw [path_of_failed due executed]
    cases n with
    | zero =>
      constructor
      · intro found
        cases found
        exact ⟨Nat.succ_pos _, inside, r, s, rfl, rfl⟩
      · rintro ⟨-, -, r', s', ahead, rfl⟩
        cases ahead
        rfl
    | succ n =>
      constructor
      · intro found
        cases found
      · rintro ⟨-, -, r', s', ahead, -⟩
        rw [after_of_failed due executed] at ahead
        cases ahead
  case next =>
    intro budget r s row flow s' due executed ih n
    have inside := (List.getElem?_eq_some_iff.1 due).1
    rw [path_of_next due executed]
    cases n with
    | zero =>
      constructor
      · intro found
        cases found
        exact ⟨Nat.succ_pos _, inside, r, s, rfl, rfl⟩
      · rintro ⟨-, -, r', s', ahead, rfl⟩
        cases ahead
        rfl
    | succ n => rw [List.getElem?_cons_succ, ih n, after_of_next due executed, Nat.add_lt_add_iff_right]

theorem length_path_le_budget : (path host options.relation p budget r s).length ≤ budget := by
  apply Nat.le_of_not_lt
  intro more
  have short := ((getElem?_path budget r s budget).1 (List.getElem?_eq_getElem more)).1
  exact Nat.lt_irrefl _ short

/-! ## Where a run is stopped -/

/-- **A run is stopped exactly if a row is due behind as many rows as it has steps left**, and then its host
is left as it is there. -/
theorem loop_eq_stepLimit_iff : ∀ budget r s,
    loop host options p budget r s = (.error (.stepLimit options.maxSteps), s') ↔
      ∃ r', after host options.relation p budget r s = some (r', s') ∧ r'.row < p.length := by
  refine loop_induction host options p ?left ?limit ?failed ?next
  case left =>
    intro budget r s past
    rw [loop_of_left past]
    constructor
    · intro stopped
      cases stopped
    · rintro ⟨r', ahead, inside⟩
      cases budget with
      | zero =>
        cases ahead
        rw [List.getElem?_eq_getElem inside] at past
        cases past
      | succ budget =>
        rw [after_of_left past] at ahead
        cases ahead
  case limit =>
    intro r s row due
    rw [loop_of_limit due]
    constructor
    · intro stopped
      cases stopped
      exact ⟨r, rfl, (List.getElem?_eq_some_iff.1 due).1⟩
    · rintro ⟨r', ahead, -⟩
      cases ahead
      rfl
  case failed =>
    intro budget r s row e t due executed
    rw [loop_of_failed due executed, after_of_failed due executed]
    constructor
    · intro stopped
      cases stopped
      exact (execute_ne_stepLimit executed rfl).elim
    · rintro ⟨r', ahead, -⟩
      cases ahead
  case next =>
    intro budget r s row flow t due executed ih
    rw [loop_of_next due executed, after_of_next due executed]
    exact ih

/-- A run with steps for so many rows and more goes on from where it stands behind them. -/
theorem loop_of_after (same : options.relation = relation) : ∀ n r s more,
    after host relation p n r s = some (r', s') →
      loop host options p (n + more) r s = loop host options p more r' s' := by
  subst same
  intro n
  induction n with
  | zero =>
    intro r s more ahead
    cases ahead
    rw [Nat.zero_add]
  | succ n ih =>
    intro r s more ahead
    obtain ⟨row, flow, t, due, executed, ahead⟩ := of_after_succ ahead
    rw [Nat.succ_add, loop_of_next due executed]
    exact ih _ _ more ahead

/-- The row at which a run ends that ends without an error is the end of its program. -/
theorem row_of_loop : ∀ budget r s, r.row ≤ p.length → ∀ r' s',
    loop host options p budget r s = (.ok r', s') → r'.row = p.length := by
  refine loop_induction host options p ?left ?limit ?failed ?next
  case left =>
    intro budget r s past within r' s' ended
    rw [loop_of_left past] at ended
    cases ended
    exact Nat.le_antisymm within (List.getElem?_eq_none_iff.1 past)
  case limit =>
    intro r s row due within r' s' ended
    rw [loop_of_limit due] at ended
    cases ended
  case failed =>
    intro budget r s row e t due executed within r' s' ended
    rw [loop_of_failed due executed] at ended
    cases ended
  case next =>
    intro budget r s row flow t due executed ih within r' s' ended
    rw [loop_of_next due executed] at ended
    refine ih ?_ r' s' ended
    cases flow with
    | next => exact (List.getElem?_eq_some_iff.1 due).1
    | jump offset => exact jumpTarget_le
    | halt v => exact Nat.le_refl _

/-! ## What a run asks of its host -/

/-- The request a demand puts to the host, if it puts one. -/
def Demand.requests : Demand → List Host.Request
  | .answer _ => []
  | .write target value => [.write target value]
  | .push target property value => [.push target property value]

/-- A row comes to the same with a log, and the log grows by its request. -/
theorem execute_logged {context : Context} {log : List Host.Request} {index : Nat} {a : Except RuleError Flow}
    (executed : execute host relation context s index row = (a, s')) :
    execute host.logged relation context (s, log) index row =
      (a, s', log ++ (demand host relation context s index row).requests) := by
  have same : demand host.logged relation context (s, log) index row =
      demand host relation context s index row := demand_congr fun _ _ => rfl
  rw [execute_eq_settle] at executed
  rw [execute_eq_settle, same]
  cases demands : demand host relation context s index row with
  | answer flow =>
    rw [demands] at executed
    cases executed
    rw [Demand.requests, List.append_nil]
    rfl
  | write target value =>
    rw [demands] at executed
    cases executed
    rfl
  | push target property value =>
    rw [demands] at executed
    cases executed
    rfl

/-- **A run comes to the same with a log**, and the log only grows. -/
theorem loop_logged : ∀ budget r s log, ∃ asked,
    loop host.logged options p budget r (s, log) =
      ((loop host options p budget r s).1, (loop host options p budget r s).2, log ++ asked) := by
  refine loop_induction host options p ?left ?limit ?failed ?next
  case left =>
    intro budget r s past log
    refine ⟨[], ?_⟩
    rw [loop_of_left past, loop_of_left past, List.append_nil]
  case limit =>
    intro r s row due log
    refine ⟨[], ?_⟩
    rw [loop_of_limit due, loop_of_limit due, List.append_nil]
  case failed =>
    intro budget r s row e s' due executed log
    refine ⟨(demand host options.relation r.context s r.row row).requests, ?_⟩
    rw [loop_of_failed due executed, loop_of_failed due (execute_logged executed)]
  case next =>
    intro budget r s row flow s' due executed ih log
    obtain ⟨asked, rest⟩ := ih (log ++ (demand host options.relation r.context s r.row row).requests)
    refine ⟨(demand host options.relation r.context s r.row row).requests ++ asked, ?_⟩
    rw [loop_of_next due executed, loop_of_next due (execute_logged executed), rest, List.append_assoc]

/-! ## Two limits -/

section

variable {budget' : Nat}

/-- A run that is not stopped comes to the same with more steps left. -/
theorem loop_of_more (same : options'.relation = options.relation) (more : budget ≤ budget')
    (inTime : InTime (loop host options p budget r s).1) :
    loop host options' p budget' r s = loop host options p budget r s :=
  loop_of_enough same budget r s budget' inTime (Nat.le_trans length_path_le_budget more)

/-- **What it asks of its host is the start of what it asks with more steps left**, stopped or not. -/
theorem prefix_loop_logged (same : options'.relation = options.relation) (more : budget ≤ budget')
    (log : List Host.Request) :
    (loop host.logged options p budget r (s, log)).2.2 <+:
      (loop host.logged options' p budget' r (s, log)).2.2 := by
  by_cases stopped : (loop host.logged options p budget r (s, log)).1 =
      .error (.stepLimit options.maxSteps)
  · -- the longer run goes on from the host the shorter one left
    rcases ended : loop host.logged options p budget r (s, log) with ⟨a, t, asked⟩
    rw [ended] at stopped
    subst stopped
    obtain ⟨r', ahead, -⟩ := (loop_eq_stepLimit_iff budget r (s, log)).1 ended
    obtain ⟨extra, rfl⟩ := Nat.exists_eq_add_of_le more
    rw [loop_of_after same budget r (s, log) extra ahead]
    have grows : asked <+: (loop host.logged options' p extra r' (t, asked)).2.2 := by
      obtain ⟨others, goesOn⟩ := loop_logged extra r' t asked
      rw [goesOn]
      exact List.prefix_append asked others
    exact grows
  · have unchanged := loop_of_more same more (inTime_of_ne stopped)
    exact unchanged ▸ List.prefix_rfl

end

/-- **The step limit only truncates a run.** Of the run that knows no limit, `after`, a run executes the first
`limit - r.steps` rows, and none beyond them. The counter counts the rows, so it ends at most at the greater
of the limit and its start, and stays a word of 64 bits if these are. The run is stopped exactly if a row is
still due behind that many, by its own limit, with the host as it is there. One that ends without an error has
counted the rows executed and ends at the end of the program.

What a run asks of its host is the start of what it asks under a greater limit, and one that is not stopped
comes to the same under that. -/
theorem run_truncated {σ : Type} (host : Host σ) (p : Program) (relation : Relation) (r : RunState) (s : σ)
    {limit limit' : Nat} (more : limit ≤ limit') :
    (∀ n i, (runPath host ⟨limit, relation⟩ p r s)[n]? = some i ↔
      n < limit - r.steps ∧ i < p.length ∧
        ∃ r' t, after host relation p n { r with row := 0 } s = some (r', t) ∧ r'.row = i) ∧
    (runPath host ⟨limit, relation⟩ p r s).length ≤ limit - r.steps ∧
    (∀ n r' t, after host relation p n { r with row := 0 } s = some (r', t) → r'.steps = r.steps + n) ∧
    r.steps + (runPath host ⟨limit, relation⟩ p r s).length ≤ max r.steps limit ∧
    (r.steps < UInt64.size → limit < UInt64.size →
      r.steps + (runPath host ⟨limit, relation⟩ p r s).length < UInt64.size) ∧
    (∀ t, run host ⟨limit, relation⟩ p r s = (.error (.stepLimit limit), t) ↔
      ∃ r', after host relation p (limit - r.steps) { r with row := 0 } s = some (r', t) ∧
        r'.row < p.length) ∧
    (∀ other, (run host ⟨limit, relation⟩ p r s).1 = .error (.stepLimit other) → other = limit) ∧
    (∀ r' t, run host ⟨limit, relation⟩ p r s = (.ok r', t) →
      r'.steps = r.steps + (runPath host ⟨limit, relation⟩ p r s).length ∧ r'.row = p.length) ∧
    ((run host.logged ⟨limit, relation⟩ p r (s, [])).1 = (run host ⟨limit, relation⟩ p r s).1 ∧
      (run host.logged ⟨limit, relation⟩ p r (s, [])).2.1 = (run host ⟨limit, relation⟩ p r s).2) ∧
    (run host.logged ⟨limit, relation⟩ p r (s, [])).2.2 <+:
      (run host.logged ⟨limit', relation⟩ p r (s, [])).2.2 ∧
    (InTime (run host ⟨limit, relation⟩ p r s).1 →
      run host ⟨limit', relation⟩ p r s = run host ⟨limit, relation⟩ p r s) := by
  have same : (RunOptions.mk limit' relation).relation = (RunOptions.mk limit relation).relation := rfl
  have fewer : limit - r.steps ≤ limit' - r.steps := by omega
  have short : (runPath host ⟨limit, relation⟩ p r s).length ≤ limit - r.steps := length_path_le_budget
  refine ⟨fun n i => getElem?_path _ _ s n, short, fun n r' t => steps_of_after n _ s, by omega, by omega,
    fun t => loop_eq_stepLimit_iff _ _ s, fun other => limit_of_loop _ _ s, ?ended, ?logged,
    prefix_loop_logged same fewer [], loop_of_more same fewer⟩
  case ended =>
    intro r' t ended
    exact ⟨steps_of_loop _ _ s r' t ended, row_of_loop _ _ s (Nat.zero_le _) r' t ended⟩
  case logged =>
    obtain ⟨asked, logged⟩ := loop_logged (limit - r.steps) { r with row := 0 } s []
    exact ⟨congrArg Prod.fst logged, congrArg (fun a => a.2.1) logged⟩

/-- Copies a field and rings a bell, for ever. -/
def shuttle : Program :=
  ⟨[⟨"s", ["near", "far"]⟩, ⟨"sp", ["bell", "rung", "near"]⟩, ⟨"jrgt", ["1", "1", "-2"]⟩]⟩

theorem shuttle_truncated :
    let bench : Bench := { fields := .ofList [("near", .text "a"), ("far", .text "b")], bound := ["bell"] }
    let start : RunState := { context := .propagation, steps := 1 }
    let asked (limit : Nat) := (run Bench.host.logged ⟨limit, .greaterOrEqual⟩ shuttle start (bench, [])).2.2
    5 ≤ 9 ∧ runPath Bench.host ⟨5, .greaterOrEqual⟩ shuttle start bench = [0, 1, 2, 0] ∧
      (run Bench.host ⟨5, .greaterOrEqual⟩ shuttle start bench).1 = .error (.stepLimit 5) ∧
      asked 5 = [.write "near" (.text "b"), .push "bell" "rung" (.text "b"), .write "near" (.text "b")] ∧
      asked 5 <+: asked 9 := by
  intro bench start asked
  have more : 5 ≤ 9 := by decide
  obtain ⟨-, -, -, -, -, stopped, -, -, -, grows, -⟩ :=
    run_truncated Bench.host shuttle .greaterOrEqual start bench more
  have stands : (after Bench.host .greaterOrEqual shuttle 4 start bench).map Prod.fst =
      some { context := .propagation, row := 1, steps := 5 } := by
    decide +kernel
  obtain ⟨⟨r, t⟩, ahead, rfl⟩ := Option.map_eq_some_iff.1 stands
  have stops := (stopped t).2 ⟨_, ahead, by decide⟩
  exact ⟨more, by decide +kernel, congrArg Prod.fst stops, by decide +kernel, grows⟩

end Machine

end Formulary
