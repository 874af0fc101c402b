import Formulary.Rule.Error
import Formulary.Value

/-!
# Journals

A journal records, in order, all that a change of one field set in motion: the writes with their
depth in the chain of writes, the writes that were suppressed, the pushes, and the programs that
failed.
-/

namespace Formulary

/-- One event of a change. -/
inductive JournalEntry where
  /-- A field was written; the write asked for by the host has depth 0. -/
  | write (field : String) (value : Value) (depth : Nat)
  /-- A write was skipped because the field was being written. -/
  | suppressed (field : String) (value : Value)
  /-- A component received a property. -/
  | push (target property : String) (value : Value)
  /-- No component was bound to the target of a push. -/
  | noBinding (target property : String)
  /-- A program of a field failed; what it did before stands. -/
  | failure (field : String) (program : Nat) (error : RuleError)
deriving DecidableEq, Repr

/-- The events of one change, in order. -/
structure Journal where
  entries : Array JournalEntry := #[]
deriving DecidableEq, Repr, Inhabited

namespace Journal

/-- The journal with one more event. -/
def record (j : Journal) (e : JournalEntry) : Journal :=
  ⟨j.entries.push e⟩

/-- The events in order. -/
def toList (j : Journal) : List JournalEntry :=
  j.entries.toList

/-- The writes made by rule programs. -/
def propagated (j : Journal) : List (String × Value) :=
  j.toList.filterMap fun
    | .write field value depth => if 0 < depth then some (field, value) else none
    | _ => none

/-- The fields of the writes that were suppressed. -/
def suppressed (j : Journal) : List String :=
  j.toList.filterMap fun
    | .suppressed field _ => some field
    | _ => none

/-- The events that are failures. -/
def failures (j : Journal) : List JournalEntry :=
  j.toList.filter fun
    | .failure .. => true
    | _ => false

end Journal

end Formulary
