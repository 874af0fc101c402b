import Formulary.NameMap
import Formulary.Text.Quoted
import Formulary.Text.Split
import Formulary.Value

/-!
# Mounted components

A component that accepts properties is mounted under an identifier by an owner; what it receives is
written on its sheet. The registry keeps every mount ever made and the sheets of all components.
Mounting binds the identifier, to a new component or to one mounted before, which keeps its sheet;
releasing an owner ends the bindings of all its mounts at once and destroys their sheets. A push
goes to the earliest live mount of the identifier.
-/

namespace Formulary

/-- A scope that mounts components and releases them together. -/
structure Owner where
  number : Nat
deriving DecidableEq, Repr, Inhabited

namespace Owner

/-- How the owner is shown. -/
def text (o : Owner) : String :=
  "owner-" ++ toString o.number

end Owner

/-- What a component has received: the latest value of each property, how many pushes there were,
and whether the component has been destroyed. -/
structure Sheet where
  properties : NameMap Value := .empty
  pushes : Nat := 0
  destroyed : Bool := false
deriving DecidableEq, Repr, Inhabited

namespace Sheet

/-- The latest value of a property. -/
def get? (s : Sheet) (property : String) : Option Value :=
  s.properties.get? property

/-- The sheet after one more push. -/
def receive (s : Sheet) (property : String) (value : Value) : Sheet :=
  { s with properties := s.properties.insert property value, pushes := s.pushes + 1 }

/-- The sheet of a destroyed component. -/
def destroy (s : Sheet) : Sheet :=
  { s with destroyed := true }

end Sheet

/-- The component that is to be mounted: a new one, or one that has been mounted before and keeps its
sheet. -/
inductive Component where
  | new
  | known (sheet : Nat)
deriving DecidableEq, Repr

/-- A component mounted under an identifier by an owner. -/
structure Mount where
  identifier : String
  owner : Owner
  /-- The number of the component's sheet. -/
  sheet : Nat
  /-- The owner has not released its components since. -/
  live : Bool := true
deriving DecidableEq, Repr, Inhabited

namespace Mount

/-- The identifier is bound by the mount. -/
def binds (m : Mount) (identifier : String) : Bool :=
  m.live && m.identifier == identifier

/-- The mount is live and belongs to the owner. -/
def isHeldBy (m : Mount) (owner : Owner) : Bool :=
  m.live && m.owner == owner

end Mount

/-- Every mount ever made, in order, the sheets of all components in the order they were first
mounted, and the number of owners handed out. -/
structure Registry where
  mounts : List Mount := []
  sheets : List Sheet := []
  owners : Nat := 0
deriving DecidableEq, Repr, Inhabited

namespace Registry

/-- The registry without components and owners. -/
def empty : Registry := {}

/-- Hands out a new owner. -/
def newOwner (r : Registry) : Owner × Registry :=
  (⟨r.owners + 1⟩, { r with owners := r.owners + 1 })

/-- Mounts the component of a sheet. -/
def bind (r : Registry) (identifier : String) (owner : Owner) (sheet : Nat) : Registry :=
  { r with mounts := r.mounts ++ [{ identifier, owner, sheet }] }

/-- Mounts a new component, with an empty sheet. -/
def add (r : Registry) (identifier : String) (owner : Owner) : Registry :=
  { r.bind identifier owner r.sheets.length with sheets := r.sheets ++ [{}] }

/-- Mounts a component. -/
def mount (r : Registry) (identifier : String) (owner : Owner) : Component → Registry
  | .new => r.add identifier owner
  | .known sheet => r.bind identifier owner sheet

/-- The live mounts in the order made. -/
def bindings (r : Registry) : List Mount :=
  r.mounts.filter (·.live)

/-- The identifiers bound, in the order mounted. -/
def identifiers (r : Registry) : List String :=
  r.bindings.map (·.identifier)

/-- A component is bound to the identifier. -/
def contains (r : Registry) (identifier : String) : Bool :=
  r.mounts.any (·.binds identifier)

/-- The earliest live mount of an identifier. -/
def find? (r : Registry) (identifier : String) : Option Mount :=
  r.mounts.find? (·.binds identifier)

/-- Pushes a property onto the earliest live mount of an identifier; none if nothing is bound to
it. -/
def push? (r : Registry) (identifier property : String) (value : Value) : Option Registry :=
  (r.find? identifier).map fun m =>
    { r with sheets := r.sheets.modify m.sheet (·.receive property value) }

/-- How many live mounts an owner has. -/
def countOf (r : Registry) (owner : Owner) : Nat :=
  r.mounts.countP (·.isHeldBy owner)

/-- Ends every live mount of an owner and destroys its component. -/
def release (r : Registry) (owner : Owner) : Registry :=
  { r with
    mounts := r.mounts.map fun m => if m.isHeldBy owner then { m with live := false } else m
    sheets := (r.mounts.filter (·.isHeldBy owner)).foldl
      (fun sheets m => sheets.modify m.sheet Sheet.destroy) r.sheets }

/-- A one-line account of the registry. -/
def summary (r : Registry) : String :=
  "ReferenceRegistry \x7b bindings: ["
    ++ Text.joinWith ", " (r.identifiers.map Text.quoted)
    ++ "], next_owner: " ++ toString r.owners ++ " \x7d"

end Registry

end Formulary
