import Formulary.Number.Decimal
import Formulary.Text.Hex
import Formulary.Toml.Basic

/-!
# Scalars of TOML

Strings come in four kinds: basic ones with escapes and literal ones without, each on one line or on
several. Numbers, truth values and dates are words; a word is taken up to the next character that
cannot belong to one, and then has to be understood as a whole.
-/

namespace Formulary.Toml

/-- The result of reading something, with what is left. -/
abbrev Read (α : Type) := α × List Char

/-- A space or a tab. -/
def isSpace (c : Char) : Bool :=
  c = ' ' || c = '\t'

/-- What is left after spaces and tabs. -/
def skipSpaces (cs : List Char) : List Char :=
  cs.dropWhile isSpace

/-- What is left after a line break, if one stands here. -/
def lineBreak? : List Char → Option (List Char)
  | '\n' :: cs => some cs
  | '\r' :: '\n' :: cs => some cs
  | _ => none

/-- A character that may stand as it is in comments and literal strings. -/
def isPlain (c : Char) : Bool :=
  c = '\t' || (0x20 ≤ c.toNat && c ≠ '\x7f')

/-- The character a one-letter escape stands for. -/
def escaped? : Char → Option Char
  | 'b' => some '\x08'
  | 't' => some '\t'
  | 'n' => some '\n'
  | 'f' => some '\x0c'
  | 'r' => some '\r'
  | '"' => some '"'
  | '\\' => some '\\'
  | _ => none

/-- Reads a basic string after its opening quote. -/
def basic? : List Char → (reversed : List Char) → Option (Read String)
  | [], _ => none
  | '"' :: cs, acc => some (String.ofList acc.reverse, cs)
  | '\\' :: 'u' :: a :: b :: c :: d :: cs, acc => do basic? cs ((← Text.hexChar? [a, b, c, d]) :: acc)
  | '\\' :: 'U' :: a :: b :: c :: d :: e :: f :: g :: h :: cs, acc => do
    basic? cs ((← Text.hexChar? [a, b, c, d, e, f, g, h]) :: acc)
  | '\\' :: c :: cs, acc => do basic? cs ((← escaped? c) :: acc)
  | c :: cs, acc => if isPlain c && c ≠ '\\' then basic? cs (c :: acc) else none

/-- Reads a literal string after its opening quote. -/
def literal? : List Char → (reversed : List Char) → Option (Read String)
  | [], _ => none
  | c :: cs, acc =>
    if c = '\x27' then some (String.ofList acc.reverse, cs)
    else if isPlain c then literal? cs (c :: acc)
    else none

/-- The number of quotes at the start of a text. -/
def quoteRun (q : Char) (cs : List Char) : Nat :=
  (cs.takeWhile (· = q)).length

/-- What is left after spaces, tabs and line breaks. -/
def skipLines : List Char → List Char
  | [] => []
  | '\r' :: '\n' :: cs => skipLines cs
  | c :: cs => if isSpace c || c = '\n' then skipLines cs else c :: cs

/-- A backslash at the end of a line: what is left after it and all blanks that follow. -/
def lineEnd? (cs : List Char) : Option (List Char) :=
  (lineBreak? (skipSpaces cs)).map skipLines

/-- The end of a string in three quotes: five quotes at most, of which the last three close it. -/
def closing? (q : Char) (acc cs : List Char) : Option (Read String) :=
  let n := min (quoteRun q cs) 5
  some (String.ofList (List.replicate (n - 3) q ++ acc).reverse, cs.drop n)

/-- Reads a basic string on several lines, after the opening quotes; `limit` bounds its length. -/
def longBasic? : (limit : Nat) → List Char → (reversed : List Char) → Option (Read String)
  | 0, _, _ => none
  | limit + 1, cs, acc =>
    if 3 ≤ quoteRun '"' cs then closing? '"' acc cs
    else match cs with
      | [] => none
      | '\r' :: '\n' :: cs => longBasic? limit cs ('\n' :: acc)
      | '\n' :: cs => longBasic? limit cs ('\n' :: acc)
      | '\\' :: 'u' :: a :: b :: c :: d :: cs => do
        longBasic? limit cs ((← Text.hexChar? [a, b, c, d]) :: acc)
      | '\\' :: 'U' :: a :: b :: c :: d :: e :: f :: g :: h :: cs => do
        longBasic? limit cs ((← Text.hexChar? [a, b, c, d, e, f, g, h]) :: acc)
      | '\\' :: cs =>
        match lineEnd? cs, cs with
        | some rest, _ => longBasic? limit rest acc
        | none, c :: cs => do longBasic? limit cs ((← escaped? c) :: acc)
        | none, [] => none
      | c :: cs => if isPlain c then longBasic? limit cs (c :: acc) else none

/-- Reads a literal string on several lines, after the opening quotes. -/
def longLiteral? : List Char → (reversed : List Char) → Option (Read String)
  | [], _ => none
  | '\r' :: '\n' :: cs, acc => longLiteral? cs ('\n' :: acc)
  | c :: cs, acc =>
    if 3 ≤ quoteRun '\x27' (c :: cs) then closing? '\x27' acc (c :: cs)
    else if c = '\n' || isPlain c then longLiteral? cs (c :: acc)
    else none

/-- A line break right after the opening quotes does not count. -/
def skipFirstBreak (cs : List Char) : List Char :=
  (lineBreak? cs).getD cs

/-- Reads a string of any kind. -/
def string? : List Char → Option (Read String)
  | '"' :: '"' :: '"' :: cs => longBasic? (cs.length + 1) (skipFirstBreak cs) []
  | '"' :: cs => basic? cs []
  | '\x27' :: '\x27' :: '\x27' :: cs => longLiteral? (skipFirstBreak cs) []
  | '\x27' :: cs => literal? cs []
  | _ => none

/-- A character of keys without quotes. -/
def isKeyChar (c : Char) : Bool :=
  c.isAlphanum || c = '_' || c = '-'

/-- Reads one part of a key. -/
def simpleKey? (cs : List Char) : Option (Read String) :=
  match cs with
  | '"' :: rest => basic? rest []
  | '\x27' :: rest => literal? rest []
  | _ =>
    let name := cs.takeWhile isKeyChar
    if name.isEmpty then none else some (String.ofList name, cs.drop name.length)

/-- Reads a key of at most so many parts with points between them. -/
def keyParts? : (most : Nat) → List Char → Option (Read (List String))
  | 0, _ => none
  | most + 1, cs => do
    let (part, rest) ← simpleKey? (skipSpaces cs)
    match skipSpaces rest with
    | '.' :: rest =>
      let (parts, rest) ← keyParts? most rest
      return (part :: parts, rest)
    | rest => return ([part], rest)

/-- How many parts a key may have, and how deep arrays and inline tables may be nested. -/
def maxDepth : Nat := 79

/-- Reads a key. -/
def key? (cs : List Char) : Option (Read (List String)) :=
  keyParts? maxDepth cs

/-! ### Words -/

/-- Removes the underscores of a number, each of which stands between two digits. -/
def plainDigits? (isDigit : Char → Bool) : List Char → Option (List Char)
  | [] => none
  | [d] => if isDigit d then some [d] else none
  | d :: '_' :: e :: ds =>
    if isDigit d && isDigit e then (plainDigits? isDigit (e :: ds)).map (d :: ·) else none
  | d :: ds => if isDigit d then (plainDigits? isDigit ds).map (d :: ·) else none

/-- The number digits of a base denote. -/
def inBase? (base : Nat) (cs : List Char) : Option Nat := do
  Text.numberIn? base (← plainDigits? (fun c => (Text.digitIn? base c).isSome) cs)

/-- Decimal digits without a needless zero in front. -/
def wholeDigits? (cs : List Char) : Option (List Char) := do
  let ds ← plainDigits? Char.isDigit cs
  match ds with
  | '0' :: _ :: _ => none
  | ds => some ds

/-- The sign of a number and what follows it. -/
def takeSign : List Char → Bool × List Char
  | '+' :: cs => (false, cs)
  | '-' :: cs => (true, cs)
  | cs => (false, cs)

/-- An integer, which must fit 64 bits. -/
def integer? (cs : List Char) : Option Int := do
  let n ← match cs with
    | '0' :: 'x' :: ds => (inBase? 16 ds).map Int.ofNat
    | '0' :: 'o' :: ds => (inBase? 8 ds).map Int.ofNat
    | '0' :: 'b' :: ds => (inBase? 2 ds).map Int.ofNat
    | _ =>
      let (negative, ds) := takeSign cs
      (wholeDigits? ds).map fun ds =>
        let n := Decimal.natOfDigits ds
        if negative then -(n : Int) else n
  if Int64.minValue.toInt ≤ n && n ≤ Int64.maxValue.toInt then some n else none

/-- The digits after a point, and what follows them. -/
def fractionDigits? : List Char → Option (List Char × List Char)
  | '.' :: cs => do
    let part := cs.takeWhile fun c => c.isDigit || c = '_'
    return (← plainDigits? Char.isDigit part, cs.drop part.length)
  | cs => some ([], cs)

/-- The exponent at the end of a real number. -/
def exponent? : List Char → Option Int
  | [] => some 0
  | c :: cs =>
    if c = 'e' || c = 'E' then do
      let (negative, ds) := takeSign cs
      let n := Decimal.natOfDigits (← plainDigits? Char.isDigit ds)
      return if negative then -(n : Int) else n
    else none

/-- A real number, which has a fraction or an exponent; one that would be positive infinity must be
written as such. -/
def float? (cs : List Char) : Option Number := do
  let (negative, cs) := takeSign cs
  if cs = ['i', 'n', 'f'] then some (.infinity negative)
  else if cs = ['n', 'a', 'n'] then some .nan
  else
    let whole := cs.takeWhile fun c => c.isDigit || c = '_'
    let ds ← wholeDigits? whole
    let (part, rest) ← fractionDigits? (cs.drop whole.length)
    let e ← exponent? rest
    if part.isEmpty && rest.isEmpty then none
    let x := Number.ofDecimal negative ⟨Decimal.natOfDigits (ds ++ part), e - part.length⟩
    if x = .infinity false then none else some x

/-- The number of days of a month. -/
def daysIn (year month : Nat) : Nat :=
  if month = 2 then
    if year % 4 = 0 && (year % 100 ≠ 0 || year % 400 = 0) then 29 else 28
  else if [4, 6, 9, 11].contains month then 30
  else 31

/-- A number written with exactly `n` digits at the start of a text, and what follows it. -/
def fixedDigits? (n : Nat) (cs : List Char) : Option (Read Nat) :=
  let ds := cs.take n
  if ds.length = n && ds.all Char.isDigit then some (Decimal.natOfDigits ds, cs.drop n) else none

/-- What is left after a character that must stand here. -/
def expect? (c : Char) : List Char → Option (List Char)
  | [] => none
  | d :: cs => if c = d then some cs else none

/-- What is left after a date. -/
def date? (cs : List Char) : Option (List Char) := do
  let (year, cs) ← fixedDigits? 4 cs
  let (month, cs) ← fixedDigits? 2 (← expect? '-' cs)
  let (day, cs) ← fixedDigits? 2 (← expect? '-' cs)
  if 1 ≤ month && month ≤ 12 && 1 ≤ day && day ≤ daysIn year month then some cs else none

/-- What is left after a time of day. -/
def time? (cs : List Char) : Option (List Char) := do
  let (hour, cs) ← fixedDigits? 2 cs
  let (minute, cs) ← fixedDigits? 2 (← expect? ':' cs)
  let (second, cs) ← fixedDigits? 2 (← expect? ':' cs)
  if hour ≤ 23 && minute ≤ 59 && second ≤ 60 then
    match cs with
    | '.' :: cs =>
      let ds := cs.takeWhile Char.isDigit
      if ds.isEmpty then none else some (cs.drop ds.length)
    | cs => some cs
  else none

/-- Nothing, or the distance from universal time, is left. -/
def isOffset : List Char → Bool
  | [] => true
  | ['Z'] => true
  | ['z'] => true
  | sign :: cs =>
    (sign = '+' || sign = '-') && (do
      let (hour, cs) ← fixedDigits? 2 cs
      let (minute, cs) ← fixedDigits? 2 (← expect? ':' cs)
      return cs.isEmpty && hour ≤ 23 && minute ≤ 59 : Option Bool) = some true

/-- A date, a time of day, or both with a letter or a blank between them. -/
def isDatetime (cs : List Char) : Bool :=
  match date? cs with
  | some [] => true
  | some (c :: rest) => (c = 'T' || c = 't' || c = ' ') && (time? rest).any isOffset
  | none => time? cs = some []

/-- The value of a word. -/
def ofWord? (cs : List Char) : Option Toml :=
  if cs = ['t', 'r', 'u', 'e'] then some (.bool true)
  else if cs = ['f', 'a', 'l', 's', 'e'] then some (.bool false)
  else match integer? cs with
    | some n => some (.integer n)
    | none => match float? cs with
      | some x => some (.float x)
      | none => if isDatetime cs then some .datetime else none

/-- A character of words. -/
def isWordChar (c : Char) : Bool :=
  c.isAlphanum || c = '_' || c = '-' || c = '+' || c = '.' || c = ':'

/-- Takes a word; a blank inside it separates a date from a time of day. -/
def takeWord (cs : List Char) : List Char × List Char :=
  let word := cs.takeWhile isWordChar
  match cs.drop word.length with
  | ' ' :: rest =>
    if date? word = some [] && rest.head?.any Char.isDigit then
      let more := rest.takeWhile isWordChar
      (word ++ ' ' :: more, rest.drop more.length)
    else (word, ' ' :: rest)
  | rest => (word, rest)

end Formulary.Toml
