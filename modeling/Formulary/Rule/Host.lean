import Formulary.Value

/-!
# Hosts

A rule program sees fields and components only through its host: it reads a field, writes a field
and pushes a property. A host is given by what each request answers and how it changes the host's
state; nothing is said about what else a write may set in motion.
-/

namespace Formulary

/-- The answer to a write. -/
inductive WriteOutcome where
  /-- The field holds the value. -/
  | applied
  /-- The field is already being written further up the chain of writes. -/
  | suppressed
  /-- There is no such field. -/
  | unknownField
  /-- The host takes no writes. -/
  | refused
deriving DecidableEq, Repr

/-- The answer to a push. -/
inductive PushOutcome where
  /-- The component has the property. -/
  | delivered
  /-- No component is mounted under the name. -/
  | noBinding
  /-- The host takes no pushes. -/
  | refused
deriving DecidableEq, Repr

/-- The requests a program may make, over host states `σ`. -/
structure Host (σ : Type) where
  /-- The value a field holds now, if there is such a field. -/
  read : σ → String → Option Value
  /-- Asks for a field to be written. -/
  write : σ → String → Value → WriteOutcome × σ
  /-- Asks for a property to be pushed onto a component. -/
  push : σ → String → String → Value → PushOutcome × σ

namespace Host

/-- A host that answers reads and refuses everything else. -/
def readOnly {σ : Type} (read : σ → String → Option Value) : Host σ where
  read := read
  write s _ _ := (.refused, s)
  push s _ _ _ := (.refused, s)

end Host

end Formulary
