/-!
# Reading positions in YAML texts

Indentation decides the structure of a YAML text, so what is left to read always comes with its
line and column. Five characters break lines; a break written as carriage return and line feed
counts once.
-/

namespace Formulary.Yaml

/-- Where the next character stands. -/
structure Position where
  index : Nat := 0
  line : Nat := 0
  column : Nat := 0
deriving DecidableEq, Repr

namespace Position

/-- The position after a character within a line. -/
def next (p : Position) : Position :=
  ⟨p.index + 1, p.line, p.column + 1⟩

/-- The position after some characters within a line. -/
def skip (p : Position) (n : Nat) : Position :=
  ⟨p.index + n, p.line, p.column + n⟩

/-- The position after a line break of one or two characters. -/
def newLine (p : Position) (width : Nat) : Position :=
  ⟨p.index + width, p.line + 1, 0⟩

end Position

/-- What is left to read, and where it starts. -/
structure Cursor where
  rest : List Char
  position : Position := {}
deriving Repr

/-- A character that breaks lines. -/
def isBreak (c : Char) : Bool :=
  c = '\n' || c = '\r' || c = '\x85' || c = '\u2028' || c = '\u2029'

/-- A space or a tab. -/
def isSpace (c : Char) : Bool :=
  c = ' ' || c = '\t'

/-- A line break as it counts inside a scalar. -/
def breakText (c : Char) : List Char :=
  if c = '\u2028' || c = '\u2029' then [c] else ['\n']

/-- The text ends here, or a space or a line break follows. -/
def endsWord : List Char → Bool
  | [] => true
  | c :: _ => isSpace c || isBreak c

/-- A character of anchors, tag handles and directive names. -/
def isNameChar (c : Char) : Bool :=
  c.isAlphanum || c = '_' || c = '-'

/-- A mark of three equal characters that stands for the start or the end of a document. -/
def isMark (m : Char) : List Char → Bool
  | a :: b :: c :: rest => a = m && b = m && c = m && endsWord rest
  | _ => false

/-- A document mark stands here, at the beginning of a line. -/
def atMark (p : Position) (cs : List Char) : Bool :=
  p.column == 0 && (isMark '-' cs || isMark '.' cs)

/-- The characters a YAML text may hold. -/
def isPrintable (c : Char) : Bool :=
  let n := c.toNat
  n == 0x09 || n == 0x0A || n == 0x0D || (0x20 ≤ n && n ≤ 0x7E) || n == 0x85
    || (0xA0 ≤ n && n ≤ 0xFFFD) || 0x10000 ≤ n

/-- What stands between two words of a scalar. -/
inductive Gap where
  | empty
  /-- Spaces and tabs within a line. -/
  | blanks (text : List Char)
  /-- A line break, and the breaks of the empty lines after it. -/
  | lines (first others : List Char)
deriving Repr

namespace Gap

/-- There is nothing between the words. -/
def isEmpty : Gap → Bool
  | .empty => true
  | _ => false

/-- The words stand on different lines. -/
def isLines : Gap → Bool
  | .lines .. => true
  | _ => false

/-- The gap with one more space or tab; those around line breaks do not count. -/
def addBlank (c : Char) : Gap → Gap
  | .empty => .blanks [c]
  | .blanks text => .blanks (text ++ [c])
  | .lines first others => .lines first others

/-- The gap with one more line break. -/
def addBreak (text : List Char) : Gap → Gap
  | .lines first others => .lines first (others ++ text)
  | _ => .lines text []

/-- What the gap counts as: a single line break is folded to a space, and of several the first is
dropped. -/
def folded : Gap → List Char
  | .empty => []
  | .blanks text => text
  | .lines first others =>
    if first = ['\n'] then (if others.isEmpty then [' '] else others) else first ++ others

end Gap

end Formulary.Yaml
