import Formulary.Proofs.Rule.Truncation

/-!
# Programs that only jump forward

Control goes back by a jump only, so in a program none of whose offsets is less than one every row leads to a
later one (`row_lt_advance`), whatever the host does in between and however far an offset reaches. So many
rows ahead a run is at least so many rows further (`add_le_row_of_after`). It executes no row twice
(`pairwise_path`), and a limit that is no less than the number of rows does not stop it (`inTime_of_forward`).
-/

namespace Formulary

/-- The offset of the row, if it has one, is not less than one. -/
def Row.Forward (row : Row) : Prop :=
  row.opcode? = some .jump → ∀ token ∈ row.operands[2]?, ∀ n ∈ Machine.offset? token, 1 ≤ n

instance (row : Row) : Decidable row.Forward :=
  inferInstanceAs (Decidable
    (row.opcode? = some .jump → ∀ token ∈ row.operands[2]?, ∀ n ∈ Machine.offset? token, 1 ≤ n))

/-- All offsets of the program are at least one. -/
def Program.Forward (p : Program) : Prop :=
  ∀ row ∈ p.rows, row.Forward

instance (p : Program) : Decidable p.Forward :=
  inferInstanceAs (Decidable (∀ row ∈ p.rows, row.Forward))

namespace Machine

variable {σ : Type} {host : Host σ} {options : RunOptions} {relation : Relation} {p : Program}
  {r r' : RunState} {s s' : σ} {row : Row} {flow : Flow} {budget : Nat}

/-- **Every row of such a program leads to a later one**, or to its end. -/
theorem row_lt_advance (forward : p.Forward) (due : p.rows[r.row]? = some row)
    (executed : execute host relation r.context s r.row row = (.ok flow, s')) :
    r.row < (advance p.length r flow).row := by
  have inside : r.row < p.length := (List.getElem?_eq_some_iff.1 due).1
  cases flow with
  | next => exact Nat.lt_succ_self _
  | jump n =>
    obtain ⟨opcode, token, third, read⟩ := of_execute_jump executed
    exact lt_jumpTarget inside (forward row (List.mem_of_getElem? due) opcode token third n read)
  | halt v => exact inside

theorem add_le_row_of_after (forward : p.Forward) : ∀ n r s,
    after host relation p n r s = some (r', s') → r.row + n ≤ r'.row := by
  intro n
  induction n with
  | zero =>
    intro r s ahead
    cases ahead
    exact Nat.le_refl _
  | succ n ih =>
    intro r s ahead
    obtain ⟨row, flow, t, due, executed, ahead⟩ := of_after_succ ahead
    have later := row_lt_advance forward due executed
    have further := ih _ _ ahead
    omega

/-- A run executes its rows in the order of the program, none twice. -/
theorem pairwise_path (forward : p.Forward) : ∀ budget r s,
    (path host options.relation p budget r s).Pairwise (· < ·) ∧
      ∀ i ∈ path host options.relation p budget r s, r.row ≤ i := by
  refine loop_induction host options p ?left ?limit ?failed ?next
  case left =>
    intro budget r s past
    rw [path_of_left past]
    exact ⟨.nil, fun i mem => nomatch mem⟩
  case limit =>
    intro r s row due
    exact ⟨.nil, fun i mem => nomatch mem⟩
  case failed =>
    intro budget r s row e s' due executed
    rw [path_of_failed due executed]
    exact ⟨List.pairwise_singleton _ _, fun i mem => Nat.le_of_eq (List.mem_singleton.1 mem).symm⟩
  case next =>
    intro budget r s row flow s' due executed ih
    obtain ⟨ordered, behind⟩ := ih
    have later := row_lt_advance forward due executed
    rw [path_of_next due executed]
    constructor
    · exact List.pairwise_cons.2 ⟨fun i mem => Nat.lt_of_lt_of_le later (behind i mem), ordered⟩
    · intro i mem
      obtain rfl | mem := List.mem_cons.1 mem
      · exact Nat.le_refl _
      · exact Nat.le_of_lt (Nat.lt_of_lt_of_le later (behind i mem))

/-- It executes no more rows than the program has from where it starts. -/
theorem length_path_of_forward (forward : p.Forward) :
    (path host options.relation p budget r s).length ≤ p.length - r.row := by
  apply Nat.le_of_not_lt
  intro more
  obtain ⟨-, inside, r', s', ahead, here⟩ :=
    (getElem?_path budget r s (p.length - r.row)).1 (List.getElem?_eq_getElem more)
  have further := add_le_row_of_after forward _ r s ahead
  omega

/-- **No limit stops it that leaves as many steps as there are rows.** -/
theorem inTime_of_forward (forward : p.Forward) (enough : p.length ≤ r.row + budget) :
    InTime (loop host options p budget r s).1 := by
  apply inTime_of_ne
  intro stopped
  obtain ⟨r', ahead, inside⟩ := (loop_eq_stepLimit_iff budget r s).1 (Prod.ext stopped rfl)
  have further := add_le_row_of_after forward budget r s ahead
  omega

/-- Nor does a limit of at least as many steps stop a fresh run. -/
theorem inTime_run (forward : p.Forward) {context : Context} (enough : p.length ≤ options.maxSteps) :
    InTime (run host options p { context } s).1 := by
  apply inTime_of_forward forward
  rw [Nat.zero_add]
  exact enough

end Machine

end Formulary
