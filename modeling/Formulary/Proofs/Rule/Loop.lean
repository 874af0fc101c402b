import Formulary.Rule.Machine

/-!
# One turn of the machine

`Machine.loop` by cases of its next row: the program is left, the step limit is hit, the row fails,
or the run goes on behind it, with one step more (`steps_advance`) in the context it had. What holds of a
run in each of these cases holds of every run (`loop_induction`).
-/

namespace Formulary.Machine

variable {σ : Type} {host : Host σ} {options : RunOptions} {p : Program} {r : RunState} {s s' : σ}
  {row : Row} {flow : Flow} {e : RuleError} {budget : Nat}

theorem loop_of_left (past : p.rows[r.row]? = none) : loop host options p budget r s = (.ok r, s) := by
  cases budget <;> simp only [loop, past]

theorem loop_of_limit (due : p.rows[r.row]? = some row) :
    loop host options p 0 r s = (.error (.stepLimit options.maxSteps), s) := by
  simp only [loop, due]

theorem loop_of_failed (due : p.rows[r.row]? = some row)
    (executed : execute host options.relation r.context s r.row row = (.error e, s')) :
    loop host options p (budget + 1) r s = (.error e, s') := by
  simp only [loop, due, executed]

theorem loop_of_next (due : p.rows[r.row]? = some row)
    (executed : execute host options.relation r.context s r.row row = (.ok flow, s')) :
    loop host options p (budget + 1) r s =
      loop host options p budget (advance p.length r flow) s' := by
  simp only [loop, due, executed]

/-- Induction on the turns of a run, with a case for each way its next turn can go. -/
theorem loop_induction (host : Host σ) (options : RunOptions) (p : Program)
    {motive : Nat → RunState → σ → Prop}
    (left : ∀ budget r s, p.rows[r.row]? = none → motive budget r s)
    (limit : ∀ r s row, p.rows[r.row]? = some row → motive 0 r s)
    (failed : ∀ budget r s row e s', p.rows[r.row]? = some row →
      execute host options.relation r.context s r.row row = (.error e, s') → motive (budget + 1) r s)
    (next : ∀ budget r s row flow s', p.rows[r.row]? = some row →
      execute host options.relation r.context s r.row row = (.ok flow, s') →
      motive budget (advance p.length r flow) s' → motive (budget + 1) r s) :
    ∀ budget r s, motive budget r s := by
  intro budget
  induction budget with
  | zero =>
    intro r s
    cases due : p.rows[r.row]? with
    | none => exact left 0 r s due
    | some row => exact limit r s row due
  | succ budget ih =>
    intro r s
    cases due : p.rows[r.row]? with
    | none => exact left (budget + 1) r s due
    | some row =>
      rcases executed : execute host options.relation r.context s r.row row with ⟨result, s'⟩
      cases result with
      | error e => exact failed budget r s row e s' due executed
      | ok flow => exact next budget r s row flow s' due executed (ih _ _)

@[simp] theorem steps_advance {length : Nat} : (advance length r flow).steps = r.steps + 1 := by
  cases flow <;> rfl

@[simp] theorem context_advance {length : Nat} : (advance length r flow).context = r.context := by
  cases flow <;> rfl

end Formulary.Machine
