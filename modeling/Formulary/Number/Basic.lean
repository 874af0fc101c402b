/-!
# Numbers

A number of a form is a datum of the IEEE 754 binary64 format, with a single not-a-number. The
finite ones are kept exactly, as a multiple of the smallest positive magnitude `2^-1074`, so that
comparing, testing for integers and printing are arithmetic on integers.

`Number.position` places a number on the line of those units, with the infinities beyond every
finite number; a relation between numbers holds only if both have a position.
-/

namespace Formulary

-- Powers are the built-in ones, whatever other instances are in scope.
attribute [local instance (high)] instPowNat

/-- A finite magnitude: `digits · 2^shift` units of `2^-1074`, in its one canonical form. -/
structure Magnitude where
  digits : Nat
  shift : Nat
  digits_lt : digits < 2 ^ (53 : Nat)
  shift_le : shift ≤ 2045
  canonical : shift = 0 ∨ 2 ^ (52 : Nat) ≤ digits
deriving DecidableEq, Repr

namespace Magnitude

/-- The magnitude in units of `2^-1074`. -/
def units (a : Magnitude) : Nat :=
  a.digits * 2 ^ a.shift

/-- The magnitude zero. -/
def zero : Magnitude :=
  ⟨0, 0, by decide, by decide, .inl rfl⟩

/-- The magnitude with the given parts, if they are canonical and in range. -/
def ofParts? (digits shift : Nat) : Option Magnitude :=
  if h : digits < 2 ^ (53 : Nat) ∧ shift ≤ 2045 ∧ (shift = 0 ∨ 2 ^ (52 : Nat) ≤ digits) then
    some ⟨digits, shift, h.1, h.2.1, h.2.2⟩
  else none

end Magnitude

/-- A binary64 datum. -/
inductive Number where
  | nan
  | infinity (negative : Bool)
  | finite (negative : Bool) (magnitude : Magnitude)
deriving DecidableEq, Repr

namespace Number

/-- Positive zero. -/
def zero : Number := .finite false .zero

instance : Inhabited Number := ⟨zero⟩

/-- The distance of an infinity from zero on the line of positions, beyond every finite number. -/
def horizon : Nat := 2 ^ (2100 : Nat)

/-- `n`, or `-n` for a negative number. -/
def signed (negative : Bool) (n : Nat) : Int :=
  if negative then -(n : Int) else n

/-- Where a number stands on the line of units of `2^-1074`; not-a-number stands nowhere. -/
def position : Number → Option Int
  | .nan => none
  | .infinity negative => some (signed negative horizon)
  | .finite negative a => some (signed negative a.units)

/-- `a ≥ b`; false if either is not a number. -/
def atLeast (a b : Number) : Bool :=
  match a.position, b.position with
  | some x, some y => decide (y ≤ x)
  | _, _ => false

/-- `a > b`; false if either is not a number. -/
def exceeds (a b : Number) : Bool :=
  match a.position, b.position with
  | some x, some y => decide (y < x)
  | _, _ => false

/-- Numeric equality: the two zeros are equal, and not-a-number equals nothing. -/
def equals (a b : Number) : Bool :=
  match a.position, b.position with
  | some x, some y => decide (x = y)
  | _, _ => false

/-- Neither an infinity nor not-a-number. -/
def isFinite : Number → Bool
  | .finite .. => true
  | _ => false

/-- The integer a number is equal to, if it is finite and has no fraction. -/
def toInt? : Number → Option Int
  | .finite negative a =>
    if a.units % 2 ^ (1074 : Nat) = 0 then some (signed negative (a.units / 2 ^ (1074 : Nat))) else none
  | _ => none

/-- The quotient rounded to the nearest integer, a tie to the even one. -/
def roundQuotient (num den : Nat) : Nat :=
  let q := num / den
  let r := 2 * (num % den)
  if den < r || (r == den && q % 2 == 1) then q + 1 else q

/-- How many binary digits a natural number has; none for zero. -/
def bitLength (n : Nat) : Nat :=
  if n = 0 then 0 else n.log2 + 1

/-- The number nearest to `num / den` units of `2^-1074`, a tie to the even digits. Magnitudes
beyond the largest finite one become infinite. -/
def ofUnits (negative : Bool) (num den : Nat) : Number :=
  let shift := bitLength (num / den) - 53
  let digits := roundQuotient num (den * 2 ^ shift)
  let parts := if digits = 2 ^ (53 : Nat) then (2 ^ (52 : Nat), shift + 1) else (digits, shift)
  match Magnitude.ofParts? parts.1 parts.2 with
  | some a => .finite negative a
  | none => .infinity negative

end Number

end Formulary
