import Formulary.NameMap
import Formulary.Rule.Machine

/-!
# A bench for programs

A host to try a program on by itself: the fields are a map, some of them may be taken to be in the
middle of being written, some components are bound, and everything the program asks for is listed.
A read-only bench answers reads alone.
-/

namespace Formulary

/-- The state of the bench. -/
structure Bench where
  fields : NameMap Value
  bound : List String := []
  busy : List String := []
  readOnly : Bool := false
  /-- The writes to fields, with whether each was applied. -/
  writes : Array (String × Value × Bool) := #[]
  /-- The pushes, with whether each was delivered. -/
  pushes : Array (String × String × Value × Bool) := #[]

namespace Bench

/-- Answers a write. A busy name is suppressed, whether or not it is a field. -/
def write (b : Bench) (target : String) (value : Value) : WriteOutcome × Bench :=
  if b.readOnly then (.refused, b)
  else if b.busy.contains target then
    (.suppressed, { b with writes := b.writes.push (target, value, false) })
  else if b.fields.contains target then
    (.applied, { b with
      fields := b.fields.insert target value
      writes := b.writes.push (target, value, true) })
  else (.unknownField, b)

/-- Answers a push. -/
def push (b : Bench) (target property : String) (value : Value) : PushOutcome × Bench :=
  if b.readOnly then (.refused, b)
  else
    let delivered := b.bound.contains target
    (if delivered then .delivered else .noBinding,
      { b with pushes := b.pushes.push (target, property, value, delivered) })

/-- The bench as a host. -/
def host : Host Bench where
  read b name := b.fields.get? name
  write := write
  push := push

end Bench

end Formulary
