/-!
# Writes in flight

While a field is being written and its dependents are notified, its name is in flight, and a write
to it from further down the chain is suppressed. That breaks cycles between fields after one round.
-/

namespace Formulary

/-- The names of the fields being written, innermost first. -/
structure InFlight where
  names : List String := []
deriving DecidableEq, Repr, Inhabited

namespace InFlight

/-- The field is being written. -/
def contains (marks : InFlight) (name : String) : Bool :=
  marks.names.contains name

/-- Marks a field as being written; none if it is marked already. -/
def enter? (marks : InFlight) (name : String) : Option InFlight :=
  if marks.contains name then none else some ⟨name :: marks.names⟩

/-- Clears the innermost mark of a field, if there is one. -/
def leave (marks : InFlight) (name : String) : InFlight :=
  ⟨marks.names.erase name⟩

/-- How many writes are nested. -/
def depth (marks : InFlight) : Nat :=
  marks.names.length

/-- No write is going on. -/
def isEmpty (marks : InFlight) : Bool :=
  marks.names.isEmpty

end InFlight

end Formulary
