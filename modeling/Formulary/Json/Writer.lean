import Formulary.Json.Basic
import Formulary.Number.Shortest
import Formulary.Text.Hex

/-!
# Writing JSON

Documents are written on one line without blanks, or over several lines with two blanks of
indentation per level, an empty container staying on one line. Strings escape the quote, the
backslash and the control characters below the blank, and nothing else.

`NumberLayout` is the format of numbers: positional within a range of magnitudes, with one digit
at least after the point, and scientific outside it.
-/

namespace Formulary.Json

/-- Which magnitudes `d.ddd · 10^e` are written positionally: those with `lowest ≤ e ≤ highest`. -/
structure NumberLayout where
  lowest : Int
  highest : Int
  tie : Tie

/-- Numbers in documents are positional from `10^-5` up to `10^15`, and of two equally short and
near decimals the one with the even last digit is written. -/
def numberLayout : NumberLayout := ⟨-5, 15, .even⟩

/-- The digits after the point, `0` if there are none. -/
def someFraction (part : List Char) : List Char :=
  if part.isEmpty then ['0'] else part

/-- The exponent of the scientific notation, its sign always written. -/
def exponentText (e : Int) : List Char :=
  (if e < 0 then '-' else '+') :: Decimal.digitsOf e.natAbs

/-- The text of a decimal in a layout. -/
def decimalText (layout : NumberLayout) (d : Decimal) : List Char :=
  let ds := Decimal.digitsOf d.coefficient
  let e := d.exponent + ds.length - 1
  if layout.lowest ≤ e && e ≤ layout.highest then
    let (whole, part) := d.positional
    whole ++ '.' :: someFraction part
  else
    ds.take 1 ++ (if ds.length ≤ 1 then [] else '.' :: ds.drop 1) ++ 'e' :: exponentText e

/-- The text of a number; what is not finite is written `null`. -/
def numberText : Number → String
  | .finite negative a =>
    String.ofList (Number.signText negative ++ decimalText numberLayout (a.shortest numberLayout.tie))
  | _ => "null"

/-- A character as it stands inside a string. -/
def charText (c : Char) : List Char :=
  if c = '"' then ['\\', '"']
  else if c = '\\' then ['\\', '\\']
  else if c = '\x08' then ['\\', 'b']
  else if c = '\x0c' then ['\\', 'f']
  else if c = '\n' then ['\\', 'n']
  else if c = '\r' then ['\\', 'r']
  else if c = '\t' then ['\\', 't']
  else if c.toNat < 0x20 then
    ['\\', 'u', '0', '0', Text.hexDigit (c.toNat / 16), Text.hexDigit (c.toNat % 16)]
  else [c]

/-- A string with its quotes. -/
def stringText (s : String) : String :=
  String.ofList ('"' :: s.toList.flatMap charText ++ ['"'])

/-- Parts with a comma between them. -/
def commaSeparated : List String → String
  | [] => ""
  | [s] => s
  | s :: t :: rest => s ++ "," ++ commaSeparated (t :: rest)

mutual

/-- The document on one line without blanks. -/
def compact : Json → String
  | .null => "null"
  | .bool b => if b then "true" else "false"
  | .number n => numberText n
  | .count n => toString n
  | .text s => stringText s
  | .invalid => "null"
  | .array items => "[" ++ commaSeparated (compactItems items) ++ "]"
  | .object members => "\x7b" ++ commaSeparated (compactMembers members) ++ "\x7d"

/-- The items of an array, each on its own. -/
def compactItems : List Json → List String
  | [] => []
  | v :: vs => compact v :: compactItems vs

/-- The members of an object, each on its own. -/
def compactMembers : List (String × Json) → List String
  | [] => []
  | (k, v) :: ms => (stringText k ++ ":" ++ compact v) :: compactMembers ms

end

/-- A line break followed by the indentation of a level. -/
def lineBreak (level : Nat) : String :=
  "\n" ++ String.ofList (List.replicate (2 * level) ' ')

/-- A container over several lines, or on one if it is empty. -/
def block (left right : String) (level : Nat) (parts : List String) : String :=
  if parts.isEmpty then left ++ right
  else
    left ++ commaSeparated (parts.map (lineBreak (level + 1) ++ ·)) ++ lineBreak level ++ right

mutual

/-- The document over several lines, its first line at the given level of indentation. -/
def prettyAt (level : Nat) : Json → String
  | .array items => block "[" "]" level (prettyItems (level + 1) items)
  | .object members => block "\x7b" "\x7d" level (prettyMembers (level + 1) members)
  | .null => "null"
  | .bool b => if b then "true" else "false"
  | .number n => numberText n
  | .count n => toString n
  | .text s => stringText s
  | .invalid => "null"

/-- The items of an array at a level. -/
def prettyItems (level : Nat) : List Json → List String
  | [] => []
  | v :: vs => prettyAt level v :: prettyItems level vs

/-- The members of an object at a level. -/
def prettyMembers (level : Nat) : List (String × Json) → List String
  | [] => []
  | (k, v) :: ms => (stringText k ++ ": " ++ prettyAt level v) :: prettyMembers level ms

end

/-- The document over several lines. -/
def pretty (v : Json) : String :=
  prettyAt 0 v

end Formulary.Json
