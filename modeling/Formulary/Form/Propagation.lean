import Formulary.Form.InFlight
import Formulary.Form.Journal
import Formulary.Form.Registry
import Formulary.Form.Store
import Formulary.Rule.Machine

/-!
# Propagation

Writing a field notifies the subscriptions that depend on it: their programs run one after another,
with the change itself as host, so a program that writes a field starts the same over again further
down. A field stays in flight until its dependents have been notified, and a write to a field in
flight is suppressed.

The chain of writes therefore never holds a field twice. `Propagation.write` takes the number of
writes that may still nest, its recursion is on that number, and a change starts with one more than
there are fields.
-/

namespace Formulary

/-- The interest of a field in others: programs to run when one of the dependencies changes. -/
structure Subscription where
  field : String
  dependencies : List String
  programs : List Program
deriving DecidableEq, Repr

namespace Subscription

/-- The name is among the dependencies. -/
def dependsOn (s : Subscription) (name : String) : Bool :=
  s.dependencies.contains name

/-- The subscriptions that depend on a name, in order. -/
def dependents (subscriptions : List Subscription) (name : String) : List Subscription :=
  subscriptions.filter (·.dependsOn name)

end Subscription

/-- A change that is going on. -/
structure Change where
  store : Store
  registry : Registry
  inFlight : InFlight := {}
  journal : Journal := {}
deriving DecidableEq, Repr

namespace Change

/-- The change with one more event in its journal. -/
def record (c : Change) (e : JournalEntry) : Change :=
  { c with journal := c.journal.record e }

/-- The value a field holds now. -/
def read (c : Change) (name : String) : Option Value :=
  c.store.get? name

/-- Pushes a property onto a component and records it. -/
def push (c : Change) (target property : String) (value : Value) : PushOutcome × Change :=
  match c.registry.push? target property value with
  | some registry => (.delivered, { c with registry }.record (.push target property value))
  | none => (.noBinding, c.record (.noBinding target property))

end Change

namespace Propagation

/-- The host rule programs see during a change, given how it answers writes. -/
def host (write : Change → String → Value → WriteOutcome × Change) : Host Change where
  read := Change.read
  write := write
  push := Change.push

/-- Runs a program of a subscription; a failure is recorded, with the index of the program. -/
def runProgram (options : RunOptions) (h : Host Change) (field : String) (index : Nat)
    (p : Program) (c : Change) : Change :=
  match Machine.run h options p { context := .propagation } c with
  | (.ok _, c) => c
  | (.error e, c) => c.record (.failure field index e)

/-- Runs the programs of a subscription in order, the first of which has the given index. -/
def runPrograms (options : RunOptions) (h : Host Change) (field : String) :
    (index : Nat) → List Program → Change → Change
  | _, [], c => c
  | index, p :: ps, c => runPrograms options h field (index + 1) ps (runProgram options h field index p c)

/-- Notifies subscriptions one after another. -/
def notify (options : RunOptions) (h : Host Change) : List Subscription → Change → Change
  | [], c => c
  | s :: rest, c => notify options h rest (runPrograms options h s.field 0 s.programs c)

/-- Writes a field unless it is in flight, and notifies its dependents before the mark is cleared.
At most `room` writes nest; one that finds no room is refused. -/
def write (options : RunOptions) (subscriptions : List Subscription) :
    (room : Nat) → Change → String → Value → WriteOutcome × Change
  | 0 => fun c _ _ => (.refused, c)
  | room + 1 => fun c name value =>
    match c.store.set? name value with
    | none => (.unknownField, c)
    | some store =>
      match c.inFlight.enter? name with
      | none => (.suppressed, c.record (.suppressed name value))
      | some marks =>
        let written := { c with store, inFlight := marks }.record (.write name value c.inFlight.depth)
        let notified := notify options (host (write options subscriptions room))
          (Subscription.dependents subscriptions name) written
        (.applied, { notified with inFlight := notified.inFlight.leave name })

/-- Changes a field as the host of the form does, with room for every field in the chain of
writes. -/
def start (options : RunOptions) (subscriptions : List Subscription) (store : Store)
    (registry : Registry) (name : String) (value : Value) : WriteOutcome × Change :=
  write options subscriptions (store.fields.length + 1) { store, registry } name value

end Propagation

end Formulary
