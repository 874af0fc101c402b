import Formulary.Json.Basic
import Formulary.Text.Hex

/-!
# The tokens of JSON

A token is a punctuation mark or a scalar. `Json.tokens?` cuts a text into them and fails on
anything else between the four blanks of the format; that two scalars may not stand side by side
is left to the grammar.
-/

namespace Formulary.Json

/-- A punctuation mark or a scalar of a JSON text. -/
inductive Token where
  | openArray
  | closeArray
  | openObject
  | closeObject
  | comma
  | colon
  | scalar (value : Json)

/-- The four characters that may stand between tokens. -/
def isSpace (c : Char) : Bool :=
  c = ' ' || c = '\n' || c = '\t' || c = '\r'

/-- The character a one-letter escape stands for. -/
def escaped? : Char → Option Char
  | '"' => some '"'
  | '\\' => some '\\'
  | '/' => some '/'
  | 'b' => some '\x08'
  | 'f' => some '\x0c'
  | 'n' => some '\n'
  | 'r' => some '\r'
  | 't' => some '\t'
  | _ => none

/-- One unit of a string: a character, or half of a surrogate pair. -/
inductive StringUnit where
  | char (c : Char)
  | surrogate (n : Nat)

/-- The unit a code from a `\u` escape denotes. -/
def StringUnit.ofCode (n : Nat) : StringUnit :=
  if 0xD800 ≤ n && n < 0xE000 then .surrogate n else .char (Char.ofNat n)

/-- The units of a string up to its closing quote, and what follows. -/
def stringUnits? : List Char → Option (List StringUnit × List Char)
  | [] => none
  | '"' :: rest => some ([], rest)
  | '\\' :: 'u' :: a :: b :: c :: d :: rest => do
    let n ← Text.numberIn? 16 [a, b, c, d]
    let (units, rest) ← stringUnits? rest
    return (.ofCode n :: units, rest)
  | '\\' :: e :: rest => do
    let c ← escaped? e
    let (units, rest) ← stringUnits? rest
    return (.char c :: units, rest)
  | c :: rest => do
    if c = '\\' || c.toNat < 0x20 then none
    else
      let (units, rest) ← stringUnits? rest
      return (.char c :: units, rest)

/-- Joins surrogate pairs; fails on a surrogate without its partner. -/
def pairUnits? : List StringUnit → Option (List Char)
  | [] => some []
  | .char c :: rest => (pairUnits? rest).map (c :: ·)
  | .surrogate high :: .surrogate low :: rest =>
    if high < 0xDC00 && 0xDC00 ≤ low then
      (pairUnits? rest).map (Char.ofNat (0x10000 + (high - 0xD800) * 0x400 + (low - 0xDC00)) :: ·)
    else none
  | .surrogate _ :: _ => none

/-- The document a string denotes. -/
def ofUnits (units : List StringUnit) : Json :=
  match pairUnits? units with
  | some cs => .text (String.ofList cs)
  | none => .invalid

/-- The document a number denotes: none if it is beyond the range of the format. -/
def ofNumber (n : Number) : Json :=
  if n.isFinite then .number n else .invalid

/-- The digits of the integer part: a lone zero, or a run not starting with zero. -/
def wholePart? : List Char → Option (List Char × List Char)
  | [] => none
  | c :: cs =>
    if c = '0' then some (['0'], cs)
    else if c.isDigit then some (c :: cs.takeWhile Char.isDigit, cs.dropWhile Char.isDigit)
    else none

/-- A run of at least one digit and what follows it. -/
def someDigits? (cs : List Char) : Option (List Char × List Char) :=
  let ds := cs.takeWhile Char.isDigit
  if ds.isEmpty then none else some (ds, cs.dropWhile Char.isDigit)

/-- The digits after the point, if a point stands here. -/
def fractionPart? : List Char → Option (List Char × List Char)
  | '.' :: cs => someDigits? cs
  | cs => some ([], cs)

/-- The digits of an exponent after its optional sign. -/
def exponentDigits? : List Char → Option (Int × List Char)
  | '+' :: cs => (someDigits? cs).map fun (ds, rest) => ((Decimal.natOfDigits ds : Int), rest)
  | '-' :: cs => (someDigits? cs).map fun (ds, rest) => (-(Decimal.natOfDigits ds : Int), rest)
  | cs => (someDigits? cs).map fun (ds, rest) => ((Decimal.natOfDigits ds : Int), rest)

/-- The exponent, if the letter `e` stands here. -/
def exponentPart? : List Char → Option (Int × List Char)
  | 'e' :: cs => exponentDigits? cs
  | 'E' :: cs => exponentDigits? cs
  | cs => some (0, cs)

/-- An unsigned number and what follows it. -/
def unsigned? (negative : Bool) (cs : List Char) : Option (Number × List Char) := do
  let (whole, cs) ← wholePart? cs
  let (part, cs) ← fractionPart? cs
  let (e, cs) ← exponentPart? cs
  return (.ofDecimal negative ⟨Decimal.natOfDigits (whole ++ part), e - part.length⟩, cs)

/-- A number and what follows it. -/
def number? : List Char → Option (Number × List Char)
  | '-' :: cs => unsigned? true cs
  | cs => unsigned? false cs

/-- The first token of a text that does not start with a blank, and what follows it. -/
def token? : List Char → Option (Token × List Char)
  | '[' :: cs => some (.openArray, cs)
  | ']' :: cs => some (.closeArray, cs)
  | '\x7b' :: cs => some (.openObject, cs)
  | '\x7d' :: cs => some (.closeObject, cs)
  | ',' :: cs => some (.comma, cs)
  | ':' :: cs => some (.colon, cs)
  | '"' :: cs => (stringUnits? cs).map fun (units, rest) => (.scalar (ofUnits units), rest)
  | 'n' :: 'u' :: 'l' :: 'l' :: cs => some (.scalar .null, cs)
  | 't' :: 'r' :: 'u' :: 'e' :: cs => some (.scalar (.bool true), cs)
  | 'f' :: 'a' :: 'l' :: 's' :: 'e' :: cs => some (.scalar (.bool false), cs)
  | cs => (number? cs).map fun (n, rest) => (.scalar (ofNumber n), rest)

/-- The tokens of a text. A token takes at least one character, so `limit` need not exceed the
length of the text. -/
def tokensWithin? : Nat → List Char → Option (List Token)
  | _, [] => some []
  | 0, _ => none
  | limit + 1, c :: cs =>
    if isSpace c then tokensWithin? limit cs
    else do
      let (t, rest) ← token? (c :: cs)
      return t :: (← tokensWithin? limit rest)

/-- The tokens of a text. -/
def tokens? (cs : List Char) : Option (List Token) :=
  tokensWithin? cs.length cs

end Formulary.Json
