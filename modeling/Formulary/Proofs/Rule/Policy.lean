import Formulary.Proofs.Rule.Validation
import Formulary.Rule.Bench

/-!
# What a context lets a run do

The policy is tested before every row, so it holds of whole runs, on any host and however they end. A
run that judges leaves its host as it was and would come to the same if the host answered writes and
pushes in any other way (`loop_of_reads`), since it asks for none. Only a `setres` row sets the result, and
it ends the run (`result_of_loop`); so a run that propagates keeps the result it started with, and the
result of a run that judges is the value of the last row executed, if that is a `setres` row, and none if
no such row was executed.
-/

namespace Formulary

namespace Program

/-- The row of the index is a `setres` row. -/
def SetsResult (p : Program) (index : Nat) : Prop :=
  ∃ row, p.rows[index]? = some row ∧ row.opcode? = some .result

/-- The last of the rows executed is a `setres` row whose first operand denotes the value, and none of
the rows before it is a `setres` row. -/
inductive Yields (p : Program) : List Nat → Value → Prop where
  | result {before last row marker rest} (due : p.rows[last]? = some row)
      (opcode : row.opcode? = some .result) (operands : row.operands = marker :: rest)
      (only : ∀ index ∈ before, ¬ p.SetsResult index) :
      Yields p (before ++ [last]) (Value.ofInput marker)

end Program

namespace Program.Yields

variable {p : Program} {executed : List Nat} {v : Value} {index : Nat}

/-- Rows executed before those that yield a value do not change it. -/
theorem cons (h : p.Yields executed v) (other : ¬ p.SetsResult index) :
    p.Yields (index :: executed) v := by
  cases h with
  | @result before last row marker rest due opcode operands only =>
    have first : ∀ i ∈ index :: before, ¬ p.SetsResult i := by
      intro i mem
      rcases List.mem_cons.1 mem with rfl | later
      · exact other
      · exact only i later
    exact @Yields.result p (index :: before) last row marker rest due opcode operands first

theorem exists_setsResult (h : p.Yields executed v) : ∃ i ∈ executed, p.SetsResult i := by
  cases h with
  | @result before last row marker rest due opcode operands only =>
    refine ⟨last, ?_, row, due, opcode⟩
    simp

end Program.Yields

namespace Machine

variable {σ : Type} {host other : Host σ} {options : RunOptions} {p : Program} {r r' : RunState}
  {s s' : σ} {row : Row} {flow : Flow} {index : Nat} {relation : Relation} {context : Context} {v : Value}

/-! ## Runs that judge -/

/-- **A run that judges leaves its host as it was**, whether it ends or fails. -/
theorem host_of_loop : ∀ budget r s, r.context = .validation →
    (loop host options p budget r s).2 = s := by
  refine loop_induction host options p ?left ?limit ?failed ?next
  case left =>
    intro budget r s past judging
    rw [loop_of_left past]
  case limit =>
    intro r s row due judging
    rw [loop_of_limit due]
  case failed =>
    intro budget r s row e s' due executed judging
    rw [loop_of_failed due executed]
    exact host_of_execute judging executed
  case next =>
    intro budget r s row flow s' due executed ih judging
    obtain rfl := host_of_execute judging executed
    rw [loop_of_next due executed]
    apply ih
    rw [context_advance, judging]

/-- **It never asks the host for anything but values**: with a host that reads the same and answers writes
and pushes in any other way it comes to the same. -/
theorem loop_of_reads {budget : Nat} (judging : r.context = .validation) (reads : other.read = host.read) :
    loop other options p budget r s = loop host options p budget r s := by
  apply Prod.ext
  · apply loop_congr budget r s judging
    intro row has operand mem
    rw [reads]
  · rw [host_of_loop budget r s judging, host_of_loop budget r s judging]

/-! ## The result of a run -/

/-- Only a `setres` row halts a run, where the context permits it, with the value its first operand
denotes. -/
theorem of_execute_halt (executed : execute host relation context s index row = (.ok (.halt v), s')) :
    row.opcode? = some .result ∧ context.permits .result = true ∧
      ∃ marker rest, row.operands = marker :: rest ∧ v = Value.ofInput marker := by
  rcases of_execute_ok executed with next | demands
  · cases next
  · rcases of_demand_ok demands with ⟨-, _, _, _, _, _, -, -, jumps | next⟩ |
      ⟨opcode, permitted, marker, rest, operands, halts⟩
    · cases jumps
    · cases next
    · cases halts
      exact ⟨opcode, permitted, marker, rest, operands, rfl⟩

/-- And a `setres` row that does not fail halts it. -/
theorem halt_of_execute (opcode : row.opcode? = some .result)
    (executed : execute host relation context s index row = (.ok flow, s')) : ∃ v, flow = .halt v := by
  unfold execute at executed
  simp only [opcode] at executed
  by_cases permitted : context.permits .result = true
  · rw [if_pos permitted] at executed
    cases operands : row.operands with
    | nil =>
      rw [operands] at executed
      cases executed
    | cons marker rest =>
      rw [operands] at executed
      cases executed
      exact ⟨Value.ofInput marker, rfl⟩
  · rw [if_neg permitted] at executed
    cases executed

theorem result_advance {length : Nat} (goesOn : ∀ v, flow ≠ .halt v) :
    (advance length r flow).result = r.result := by
  cases flow with
  | next => rfl
  | jump offset => rfl
  | halt v => exact (goesOn v rfl).elim

/-- The program of a run that has ended without an error has been left. -/
theorem left_of_loop : ∀ budget r s r' s', loop host options p budget r s = (.ok r', s') →
    p.rows[r'.row]? = none := by
  refine loop_induction host options p ?left ?limit ?failed ?next
  case left =>
    intro budget r s past r' s' ended
    rw [loop_of_left past] at ended
    cases ended
    exact past
  case limit =>
    intro r s row due r' s' ended
    rw [loop_of_limit due] at ended
    cases ended
  case failed =>
    intro budget r s row e t due executed r' s' ended
    rw [loop_of_failed due executed] at ended
    cases ended
  case next =>
    intro budget r s row flow t due executed ih r' s' ended
    rw [loop_of_next due executed] at ended
    exact ih r' s' ended

/-- **A run that ends keeps the result it started with if it executed no `setres` row**; otherwise its
context permits such rows, and the one it executed, its last, yields the result. -/
theorem result_of_loop : ∀ budget r s r' s', loop host options p budget r s = (.ok r', s') →
    ((∀ i ∈ path host options.relation p budget r s, ¬ p.SetsResult i) ∧ r'.result = r.result) ∨
      (r.context.permits .result = true ∧
        ∃ v, r'.result = some v ∧ p.Yields (path host options.relation p budget r s) v) := by
  refine loop_induction host options p ?left ?limit ?failed ?next
  case left =>
    intro budget r s past r' s' ended
    rw [loop_of_left past] at ended
    cases ended
    left
    constructor
    · rw [path_of_left past]
      exact fun i mem => absurd mem List.not_mem_nil
    · rfl
  case limit =>
    intro r s row due r' s' ended
    rw [loop_of_limit due] at ended
    cases ended
  case failed =>
    intro budget r s row e t due executed r' s' ended
    rw [loop_of_failed due executed] at ended
    cases ended
  case next =>
    intro budget r s row flow t due executed ih r' s' ended
    rw [loop_of_next due executed] at ended
    rw [path_of_next due executed]
    by_cases opcode : row.opcode? = some .result
    · -- the row halts the run, so nothing is executed behind it
      obtain ⟨v, rfl⟩ := halt_of_execute opcode executed
      obtain ⟨-, permitted, marker, rest, operands, rfl⟩ := of_execute_halt executed
      have past : p.rows[(advance p.length r (.halt (Value.ofInput marker))).row]? = none :=
        List.getElem?_eq_none (Nat.le_refl _)
      rw [loop_of_left past] at ended
      cases ended
      right
      refine ⟨permitted, Value.ofInput marker, rfl, ?_⟩
      rw [path_of_left past, ← List.nil_append [r.row]]
      apply Program.Yields.result due opcode operands
      intro i mem
      cases mem
    · have other : ¬ p.SetsResult r.row := by
        rintro ⟨row', due', opcode'⟩
        rw [due] at due'
        cases due'
        exact opcode opcode'
      have goesOn : ∀ v, flow ≠ .halt v := by
        rintro v rfl
        exact opcode (of_execute_halt executed).1
      have behind := ih r' s' ended
      rw [result_advance goesOn, context_advance] at behind
      rcases behind with ⟨unset, kept⟩ | ⟨permitted, v, result, yields⟩
      · left
        refine ⟨fun i mem => ?_, kept⟩
        rcases List.mem_cons.1 mem with rfl | later
        · exact other
        · exact unset i later
      · right
        exact ⟨permitted, v, result, yields.cons other⟩

/-- **The policy holds of every execution.** Whatever its host would answer, a run that judges asks it for
no write and no push, so the host stays as it was, and a run that propagates ends with the result it
started with. A run that judges afresh and ends without an error has left the program, with the value of
the last row it executed if that, as the only one executed, is a `setres` row, and with none exactly if it
executed no `setres` row. -/
theorem run_obeys_policy (host : Host σ) (options : RunOptions) (p : Program) (s : σ) :
    (∀ r, r.context = .validation →
      (run host options p r s).2 = s ∧
        ∀ other : Host σ, other.read = host.read → run other options p r s = run host options p r s) ∧
    (∀ r r' s', r.context = .propagation → run host options p r s = (.ok r', s') →
      r'.result = r.result) ∧
    ∀ r' s', run host options p { context := .validation } s = (.ok r', s') →
      p.length ≤ r'.row ∧
      (∀ v, r'.result = some v →
        p.Yields (runPath host options p { context := .validation } s) v) ∧
      (r'.result = none ↔
        ∀ i ∈ runPath host options p { context := .validation } s, ¬ p.SetsResult i) := by
  refine ⟨fun r judging => ⟨?_, fun other reads => ?_⟩, fun r r' s' propagating ended => ?_,
    fun r' s' ended => ⟨?_, ?_⟩⟩
  · exact host_of_loop _ _ s judging
  · exact loop_of_reads judging reads
  · rcases result_of_loop _ _ s r' s' ended with ⟨-, kept⟩ | ⟨permitted, -⟩
    · exact kept
    · change r.context.permits .result = true at permitted
      rw [propagating] at permitted
      cases permitted
  · have past := left_of_loop _ _ s r' s' ended
    exact List.getElem?_eq_none_iff.1 past
  · change (∀ v, r'.result = some v → p.Yields (path host options.relation p _ _ s) v) ∧
      (r'.result = none ↔ ∀ i ∈ path host options.relation p _ _ s, ¬ p.SetsResult i)
    rcases result_of_loop _ _ s r' s' ended with ⟨unset, kept⟩ | ⟨-, v, result, yields⟩
    · constructor
      · intro v result
        rw [kept] at result
        cases result
      · exact iff_of_true kept unset
    · constructor
      · intro v' result'
        rw [result] at result'
        cases result'
        exact yields
      · obtain ⟨i, mem, sets⟩ := yields.exists_setsResult
        rw [result]
        constructor
        · intro absent
          cases absent
        · intro unset
          exact (unset i mem sets).elim

/-- Judges an age, and behind the verdict pushes a door open. -/
def bouncer : Program :=
  ⟨[⟨"jrgt", ["age", "18", "2"]⟩, ⟨"setres", ["underage"]⟩, ⟨"sp", ["door", "open", "age"]⟩]⟩

/-- A bench with a door that takes pushes. -/
def club (age : Value) : Bench :=
  { fields := .ofList [("age", age)], bound := ["door"] }

theorem bouncer_obeys_policy :
    (run Bench.host {} bouncer { context := .validation } (club (.text "21"))).1 =
        .error (.forbiddenOpcode 2 .push .validation) ∧
      (run Bench.host {} bouncer { context := .validation } (club (.text "21"))).2 = club (.text "21") ∧
      (∃ r b, run Bench.host {} bouncer { context := .propagation, result := some .null }
          (club (.text "21")) = (.ok r, b) ∧
        b.pushes = #[("door", "open", .text "21", true)] ∧ r.result = some .null) ∧
      ∃ r b, run Bench.host {} bouncer { context := .validation } (club (.text "17")) = (.ok r, b) ∧
        r.result = some (.text "underage") ∧
        bouncer.Yields
          (runPath Bench.host {} bouncer { context := .validation } (club (.text "17")))
          (.text "underage") := by
  obtain ⟨judging, propagating, -⟩ := run_obeys_policy Bench.host {} bouncer (club (.text "21"))
  obtain ⟨-, -, afresh⟩ := run_obeys_policy Bench.host {} bouncer (club (.text "17"))
  have refused : (run Bench.host {} bouncer { context := .validation } (club (.text "21"))).1 =
      .error (.forbiddenOpcode 2 .push .validation) := by
    decide +kernel
  have opened : (run Bench.host {} bouncer { context := .propagation, result := some .null }
      (club (.text "21"))).1 =
        .ok { context := .propagation, row := 3, result := some .null, steps := 2 } := by
    decide +kernel
  have pushed : (run Bench.host {} bouncer { context := .propagation, result := some .null }
      (club (.text "21"))).2.pushes = #[("door", "open", .text "21", true)] := by
    decide +kernel
  have marked : (run Bench.host {} bouncer { context := .validation } (club (.text "17"))).1 =
      .ok { context := .validation, row := 3, result := some (.text "underage"), steps := 2 } := by
    decide +kernel
  rcases propagated : run Bench.host {} bouncer { context := .propagation, result := some .null }
    (club (.text "21")) with ⟨a, b⟩
  rcases judged : run Bench.host {} bouncer { context := .validation } (club (.text "17")) with ⟨a', b'⟩
  rw [propagated] at opened pushed
  rw [judged] at marked
  subst opened marked
  refine ⟨refused, (judging _ rfl).1, ⟨_, b, rfl, pushed, ?_⟩, _, b', rfl, rfl, ?_⟩
  · exact propagating _ _ b rfl propagated
  · exact (afresh _ b' judged).2.1 _ rfl

end Machine

end Formulary
