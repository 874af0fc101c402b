import Formulary.Proofs.Propagation.Cause
import Formulary.Proofs.Rule.Operand

/-!
# The graph of the rules

The rules lead from a field to the targets of the subscriptions that depend on it (`Leads`), so a change
of a field may write whatever the rules lead to from there (`Reaches`) and read what the rows of the
subscriptions concerned read (`Reads`). Targets and sources of a subscription are lists, and a few checks
of them settle what holds of the whole graph: fields closed under the rules are all that is reached from
one of them (`mem_of_reaches`), and fields the rules only lead upwards from are on no cycle
(`not_cyclic_of_rank`).
-/

namespace Formulary

namespace Row

variable {r : Row} {t : String}

/-- The target of an `s` row. -/
def target? (r : Row) : Option String :=
  if r.opcode? = some .set then r.operands[0]? else none

theorem target?_eq_some_iff : r.target? = some t ↔ r.Sets t := by
  unfold target?
  split
  · rename_i ofSet
    exact ⟨fun first => ⟨ofSet, first⟩, fun sets => sets.target⟩
  · rename_i other
    exact ⟨nofun, fun sets => (other sets.opcode).elim⟩

end Row

namespace Subscription

variable {s : Subscription}

/-- The targets of the `s` rows in the programs of the subscription. -/
def targets (s : Subscription) : List String :=
  s.programs.flatMap fun p => p.rows.filterMap Row.target?

/-- The operands whose values the programs of the subscription read. -/
def sources (s : Subscription) : List String :=
  s.programs.flatMap fun p => p.rows.flatMap Row.valueOperands

theorem mem_targets {t : String} : t ∈ s.targets ↔ s.Sets t := by
  simp [targets, Sets, Row.target?_eq_some_iff]

theorem mem_sources {p : Program} {row : Row} {operand : String} (ofS : p ∈ s.programs)
    (has : row ∈ p.rows) (reads : operand ∈ row.valueOperands) : operand ∈ s.sources :=
  List.mem_flatMap.2 ⟨p, ofS, List.mem_flatMap.2 ⟨row, has, reads⟩⟩

theorem mem_dependencies {name : String} (h : s.dependsOn name = true) : name ∈ s.dependencies :=
  List.contains_iff_mem.1 h

end Subscription

namespace Propagation

variable {subscriptions : List Subscription} {root changed field : String}

/-- A change of the field may notify the subscription: it depends on a field the rules lead to. -/
structure Concerned (subscriptions : List Subscription) (root : String) (s : Subscription) : Prop where
  mem : s ∈ subscriptions
  depends : ∃ changed, Reaches subscriptions root changed ∧ s.dependsOn changed = true

/-- A change of the field may read the name: a program of a subscription concerned does. -/
def Reads (subscriptions : List Subscription) (root name : String) : Prop :=
  ∃ s, Concerned subscriptions root s ∧ name ∈ s.sources

/-- The rules lead from the field back to it, over one write or more. -/
def Cyclic (subscriptions : List Subscription) (field : String) : Prop :=
  Relation.TransGen (Leads subscriptions) field field

/-- What a subscription concerned writes the rules lead to as well. -/
theorem Concerned.reaches {s : Subscription} {target : String} (h : Concerned subscriptions root s)
    (sets : s.Sets target) : Reaches subscriptions root target := by
  obtain ⟨mem, changed, reached, depends⟩ := h
  exact reached.tail ⟨s, mem, depends, sets⟩

theorem concerned_of_dependents {s : Subscription} (reached : Reaches subscriptions root changed)
    (h : s ∈ Subscription.dependents subscriptions changed) : Concerned subscriptions root s := by
  obtain ⟨mem, depends⟩ := List.mem_filter.1 h
  exact ⟨mem, changed, reached, depends⟩

/-- **The rules lead from a list of fields that is closed under them to no other field.** -/
theorem mem_of_reaches {fields : List String}
    (closed : ∀ s ∈ subscriptions, ∀ a ∈ s.dependencies, a ∈ fields → s.targets ⊆ fields)
    (start : root ∈ fields) (h : Reaches subscriptions root field) : field ∈ fields := by
  induction h with
  | refl => exact start
  | tail _ leads ih =>
    obtain ⟨s, mem, depends, sets⟩ := leads
    exact closed s mem _ (Subscription.mem_dependencies depends) ih (Subscription.mem_targets.2 sets)

/-- So a change reads nothing but what the subscriptions that depend on one of them read. -/
theorem mem_of_reads (fields : List String) {sources : List String}
    (closed : ∀ s ∈ subscriptions, ∀ a ∈ s.dependencies, a ∈ fields → s.targets ⊆ fields)
    (within : ∀ s ∈ subscriptions, ∀ a ∈ s.dependencies, a ∈ fields → s.sources ⊆ sources)
    (start : root ∈ fields) (h : Reads subscriptions root field) : field ∈ sources := by
  obtain ⟨s, ⟨mem, changed, reached, depends⟩, read⟩ := h
  have among : changed ∈ fields := mem_of_reaches closed start reached
  exact within s mem changed (Subscription.mem_dependencies depends) among read

/-- **Fields that the rules only lead upwards from are on no cycle.** -/
theorem not_cyclic_of_rank (rank : String → Nat)
    (upwards : ∀ s ∈ subscriptions, ∀ a ∈ s.dependencies, ∀ t ∈ s.targets, rank a < rank t) :
    ¬ Cyclic subscriptions field := by
  have rises : ∀ a t, Leads subscriptions a t → rank a < rank t := by
    rintro a t ⟨s, mem, depends, sets⟩
    exact upwards s mem a (Subscription.mem_dependencies depends) t (Subscription.mem_targets.2 sets)
  intro cycle
  have above : Relation.TransGen (· < ·) (rank field) (rank field) := cycle.lift rank rises
  rw [Relation.transGen_eq_self] at above
  exact Nat.lt_irrefl _ above

end Propagation

end Formulary
