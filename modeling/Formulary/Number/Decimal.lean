import Formulary.Number.Basic

/-!
# Decimal notation

A decimal is a natural coefficient times a power of ten. `Number.ofDecimal` gives the binary64
number nearest to it, and `Number.ofText?` reads the notation in which numbers are written in rule
programs and typed into fields: an optional sign, digits with an optional point, an optional
exponent, or one of the words `inf`, `infinity` and `nan` in any case.
-/

namespace Formulary

-- Powers are the built-in ones, whatever other instances are in scope.
attribute [local instance (high)] instPowNat

/-- The value `coefficient · 10^exponent`. -/
structure Decimal where
  coefficient : Nat
  exponent : Int
deriving DecidableEq, Repr

namespace Decimal

/-- The natural number a run of decimal digits denotes. -/
def natOfDigits (ds : List Char) : Nat :=
  ds.foldl (fun n d => 10 * n + (d.toNat - 48)) 0

/-- The decimal digits of a natural number, `0` for zero. -/
def digitsOf (n : Nat) : List Char :=
  Nat.toDigits 10 n

/-- A non-empty run of digits and nothing else. -/
def digits? (cs : List Char) : Option Nat :=
  if !cs.isEmpty && cs.all Char.isDigit then some (natOfDigits cs) else none

/-- An optional sign and a non-empty run of digits. -/
def integer? : List Char → Option Int
  | '+' :: cs => (digits? cs).map Int.ofNat
  | '-' :: cs => (digits? cs).map fun n => -(n : Int)
  | cs => (digits? cs).map Int.ofNat

/-- What follows the digits of a decimal: nothing, or the letter `e` and an integer. -/
def exponent? : List Char → Option Int
  | [] => some 0
  | c :: cs => if c = 'e' || c = 'E' then integer? cs else none

/-- The digits after a point and what follows them. -/
def fraction : List Char → List Char × List Char
  | '.' :: cs => (cs.takeWhile Char.isDigit, cs.dropWhile Char.isDigit)
  | cs => ([], cs)

/-- Digits with an optional point and an optional exponent; one digit at least, on either side of
the point. -/
def ofText? (cs : List Char) : Option Decimal :=
  let whole := cs.takeWhile Char.isDigit
  let (part, rest) := fraction (cs.dropWhile Char.isDigit)
  if whole.isEmpty && part.isEmpty then none
  else (exponent? rest).map fun e => ⟨natOfDigits (whole ++ part), e - part.length⟩

end Decimal

namespace Number

/-- The number nearest to a decimal. A decimal whose digits all lie beyond the format's range is
settled by its order of magnitude, without writing the power of ten out. -/
def ofDecimal (negative : Bool) (d : Decimal) : Number :=
  if d.coefficient = 0 then .finite negative .zero
  else
    let order := (Decimal.digitsOf d.coefficient).length + d.exponent
    if 310 < order then .infinity negative
    else if order < -325 then .finite negative .zero
    else if 0 ≤ d.exponent then
      ofUnits negative (d.coefficient * 10 ^ d.exponent.toNat * 2 ^ (1074 : Nat)) 1
    else ofUnits negative (d.coefficient * 2 ^ (1074 : Nat)) (10 ^ (-d.exponent).toNat)

/-- The number nearest to an integer. -/
def ofInt (n : Int) : Number :=
  ofDecimal (n < 0) ⟨n.natAbs, 0⟩

/-- Reads a number without its sign: one of the words, or a decimal. -/
def ofUnsigned? (negative : Bool) (cs : List Char) : Option Number :=
  let word := String.ofList (cs.map Char.toLower)
  if word = "inf" || word = "infinity" then some (.infinity negative)
  else if word = "nan" then some .nan
  else (Decimal.ofText? cs).map (ofDecimal negative)

/-- Reads a number. -/
def ofText? : List Char → Option Number
  | '+' :: cs => ofUnsigned? false cs
  | '-' :: cs => ofUnsigned? true cs
  | cs => ofUnsigned? false cs

end Number

end Formulary
