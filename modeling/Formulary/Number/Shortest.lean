import Formulary.Number.Decimal

/-!
# The fewest digits that read back

A finite magnitude has an exact decimal expansion. `Magnitude.shortest` cuts that expansion after
as few digits as it can, so that the cut one, or its successor in the last place, still reads back
as the same magnitude; of two such it takes the nearer. Which of two equally near ones is taken
differs between formats and is a parameter.
-/

namespace Formulary

-- Powers are the built-in ones, whatever other instances are in scope.
attribute [local instance (high)] instPowNat

/-- Which of two equally near decimals is taken. -/
inductive Tie where
  | up
  | even
deriving DecidableEq, Repr

namespace Magnitude

/-- The exact decimal expansion. -/
def exact (a : Magnitude) : Decimal :=
  if 1074 ≤ a.shift then ⟨a.digits * 2 ^ (a.shift - 1074), 0⟩
  else ⟨a.digits * 5 ^ (1074 - a.shift), -((1074 - a.shift : Nat) : Int)⟩

/-- The decimal is read as this magnitude. -/
def readsFrom (a : Magnitude) (d : Decimal) : Bool :=
  Number.ofDecimal false d == .finite false a

/-- Whether the successor is taken when the part cut off is `rest` out of `scale`. -/
def roundsUp (tie : Tie) (low rest scale : Nat) : Bool :=
  scale < 2 * rest || (2 * rest == scale && (tie == .up || low % 2 == 1))

/-- Cuts `cut` digits off the exact expansion, or fewer if the result would not read back. -/
def shortestFrom (a : Magnitude) (tie : Tie) : Nat → Decimal
  | 0 => a.exact
  | cut + 1 =>
    let scale := 10 ^ (cut + 1)
    let low := a.exact.coefficient / scale
    let place := a.exact.exponent + (cut + 1 : Nat)
    let below : Decimal := ⟨low, place⟩
    let above : Decimal := ⟨low + 1, place⟩
    if a.readsFrom below then
      if a.readsFrom above && roundsUp tie low (a.exact.coefficient % scale) scale then above
      else below
    else if a.readsFrom above then above
    else shortestFrom a tie cut

/-- The shortest decimal that reads back as the magnitude. -/
def shortest (a : Magnitude) (tie : Tie) : Decimal :=
  if a.digits = 0 then ⟨0, 0⟩
  else shortestFrom a tie (Decimal.digitsOf a.exact.coefficient).length

end Magnitude

namespace Decimal

/-- The digits before and after the point of the positional notation; at least one before. -/
def positional (d : Decimal) : List Char × List Char :=
  let ds := digitsOf d.coefficient
  if 0 ≤ d.exponent then (ds ++ List.replicate d.exponent.toNat '0', [])
  else
    let places := (-d.exponent).toNat
    if places < ds.length then (ds.take (ds.length - places), ds.drop (ds.length - places))
    else (['0'], List.replicate (places - ds.length) '0' ++ ds)

end Decimal

namespace Number

/-- A minus sign for negative numbers. -/
def signText (negative : Bool) : List Char :=
  if negative then ['-'] else []

/-- The text of a number as it is shown to people: positional however long that is, without a
fraction if there is none. -/
def toText : Number → String
  | .nan => "NaN"
  | .infinity negative => String.ofList (signText negative ++ ['i', 'n', 'f'])
  | .finite negative a =>
    let (whole, part) := (a.shortest .up).positional
    String.ofList
      (signText negative ++ whole ++ if part.isEmpty then [] else '.' :: part)

end Number

end Formulary
