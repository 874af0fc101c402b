import Formulary.Text.Hex
import Formulary.Yaml.Cursor

/-!
# Scalars of YAML

The five ways to write a scalar: plain, in single or double quotes, and as a literal or folded block.
Each scan is one pass over the characters and gives the text, what is left, and what the scan of
the tokens needs to know.
-/

namespace Formulary.Yaml

/-- A scalar that has been read, with its characters in reverse. -/
structure Scanned where
  reversed : List Char
  rest : Cursor
  /-- Line breaks were read after the last word. -/
  brokeLine : Bool := false

namespace Scanned

/-- The text of the scalar. -/
def text (s : Scanned) : String :=
  String.ofList s.reversed.reverse

end Scanned

/-- Characters that separate the parts of flow collections. -/
def isFlowMark (c : Char) : Bool :=
  c = ',' || c = '[' || c = ']' || c = '\x7b' || c = '\x7d'

/-- A colon that may not stand in a plain scalar of a flow collection. -/
def isMisplacedColon (c : Char) : List Char → Bool
  | d :: _ => c = ':' && (isFlowMark d || d = '?')
  | [] => false

/-- A plain scalar ends before this character. -/
def endsPlain (flow : Bool) (c : Char) (cs : List Char) : Bool :=
  (c = ':' && endsWord cs) || (flow && isFlowMark c)

/-- Scans a plain scalar. Outside flow collections it goes on over line breaks as long as lines are
indented by `indent` at least. -/
def scanPlain (flow : Bool) (indent : Int) :
    List Char → Position → (reversed : List Char) → Gap → Option Scanned
  | [], p, acc, gap => some ⟨acc, ⟨[], p⟩, gap.isLines⟩
  | '\r' :: '\n' :: cs, p, acc, gap =>
    scanPlain flow indent cs (p.newLine 2) acc (gap.addBreak ['\n'])
  | c :: cs, p, acc, gap =>
    if isBreak c then scanPlain flow indent cs (p.newLine 1) acc (gap.addBreak (breakText c))
    else if isSpace c then
      if gap.isLines && c = '\t' && p.column < indent then none
      else scanPlain flow indent cs p.next acc (gap.addBlank c)
    else if !gap.isEmpty && ((!flow && p.column < indent) || atMark p (c :: cs) || c = '#') then
      some ⟨acc, ⟨c :: cs, p⟩, gap.isLines⟩
    else if flow && isMisplacedColon c cs then none
    else if endsPlain flow c cs then some ⟨acc, ⟨c :: cs, p⟩, gap.isLines⟩
    else scanPlain flow indent cs p.next (c :: (gap.folded.reverse ++ acc)) .empty

/-- Scans a scalar in single quotes, after the opening quote; a quote inside is written twice. -/
def scanSingle : List Char → Position → (reversed : List Char) → Gap → Option Scanned
  | [], _, _, _ => none
  | '\r' :: '\n' :: cs, p, acc, gap => scanSingle cs (p.newLine 2) acc (gap.addBreak ['\n'])
  | '\x27' :: '\x27' :: cs, p, acc, gap =>
    scanSingle cs (p.skip 2) ('\x27' :: (gap.folded.reverse ++ acc)) .empty
  | '\x27' :: cs, p, acc, gap => some { reversed := gap.folded.reverse ++ acc, rest := ⟨cs, p.next⟩ }
  | c :: cs, p, acc, gap =>
    if isBreak c then scanSingle cs (p.newLine 1) acc (gap.addBreak (breakText c))
    else if isSpace c then scanSingle cs p.next acc (gap.addBlank c)
    else if atMark p (c :: cs) then none
    else scanSingle cs p.next (c :: (gap.folded.reverse ++ acc)) .empty

/-- The character a one-letter escape stands for. -/
def escaped? : Char → Option Char
  | '0' => some '\x00'
  | 'a' => some '\x07'
  | 'b' => some '\x08'
  | 't' => some '\t'
  | '\t' => some '\t'
  | 'n' => some '\n'
  | 'v' => some '\x0b'
  | 'f' => some '\x0c'
  | 'r' => some '\r'
  | 'e' => some '\x1b'
  | ' ' => some ' '
  | '"' => some '"'
  | '/' => some '/'
  | '\\' => some '\\'
  | 'N' => some '\x85'
  | '_' => some '\u00a0'
  | 'L' => some '\u2028'
  | 'P' => some '\u2029'
  | _ => none

/-- Scans a scalar in double quotes, after the opening quote. A line break after a backslash
counts for nothing. -/
def scanDouble : List Char → Position → (reversed : List Char) → Gap → Option Scanned
  | [], _, _, _ => none
  | '\r' :: '\n' :: cs, p, acc, gap => scanDouble cs (p.newLine 2) acc (gap.addBreak ['\n'])
  | '"' :: cs, p, acc, gap => some { reversed := gap.folded.reverse ++ acc, rest := ⟨cs, p.next⟩ }
  | '\\' :: 'x' :: a :: b :: cs, p, acc, gap => do
    let c ← Text.hexChar? [a, b]
    scanDouble cs (p.skip 4) (c :: (gap.folded.reverse ++ acc)) .empty
  | '\\' :: 'u' :: a :: b :: c :: d :: cs, p, acc, gap => do
    let e ← Text.hexChar? [a, b, c, d]
    scanDouble cs (p.skip 6) (e :: (gap.folded.reverse ++ acc)) .empty
  | '\\' :: 'U' :: a :: b :: c :: d :: e :: f :: g :: h :: cs, p, acc, gap => do
    let i ← Text.hexChar? [a, b, c, d, e, f, g, h]
    scanDouble cs (p.skip 10) (i :: (gap.folded.reverse ++ acc)) .empty
  | '\\' :: '\r' :: '\n' :: cs, p, acc, gap =>
    scanDouble cs (p.next.newLine 2) (gap.folded.reverse ++ acc) (.lines [] [])
  | '\\' :: c :: cs, p, acc, gap =>
    if isBreak c then scanDouble cs (p.next.newLine 1) (gap.folded.reverse ++ acc) (.lines [] [])
    else do
      let e ← escaped? c
      scanDouble cs (p.skip 2) (e :: (gap.folded.reverse ++ acc)) .empty
  | c :: cs, p, acc, gap =>
    if isBreak c then scanDouble cs (p.newLine 1) acc (gap.addBreak (breakText c))
    else if isSpace c then scanDouble cs p.next acc (gap.addBlank c)
    else if c = '\\' || atMark p (c :: cs) then none
    else scanDouble cs p.next (c :: (gap.folded.reverse ++ acc)) .empty

/-- What a block scalar keeps of the line breaks at its end. -/
inductive Chomping where
  | strip
  | clip
  | keep

/-- The state of a scan through the lines of a block scalar. -/
structure BlockLines where
  reversed : List Char := []
  /-- The break after the last line. -/
  lastBreak : List Char := []
  /-- The breaks of the empty lines after it. -/
  emptyLines : List Char := []
  /-- The last line starts with a space. -/
  spaced : Bool := false

namespace BlockLines

/-- A line starts whose first character is a space or not; folding turns a single break between two
lines into a space, unless one of them starts with a space. -/
def startLine (b : BlockLines) (folded spaced : Bool) : BlockLines :=
  let joint :=
    if folded && b.lastBreak = ['\n'] && !b.spaced && !spaced then
      (if b.emptyLines.isEmpty then [' '] else []) ++ b.emptyLines
    else b.lastBreak ++ b.emptyLines
  { reversed := joint.reverse ++ b.reversed, spaced }

/-- The line gets one more character. -/
def add (b : BlockLines) (c : Char) : BlockLines :=
  { b with reversed := c :: b.reversed }

/-- The text is complete. -/
def finish (b : BlockLines) : Chomping → List Char
  | .strip => b.reversed
  | .clip => b.lastBreak.reverse ++ b.reversed
  | .keep => (b.lastBreak ++ b.emptyLines).reverse ++ b.reversed

end BlockLines

/-- Finds the indentation of a block scalar: skips its leading empty lines, and gives the greatest
indentation seen, the breaks, and where the first line with content starts. -/
def scanIndent : List Char → Position → (greatest : Nat) → (breaks : List Char) →
    Option (Nat × List Char × Cursor)
  | [], p, greatest, breaks => some (max greatest p.column, breaks, ⟨[], p⟩)
  | '\r' :: '\n' :: cs, p, greatest, breaks =>
    scanIndent cs (p.newLine 2) (max greatest p.column) (breaks ++ ['\n'])
  | c :: cs, p, greatest, breaks =>
    if c = ' ' then scanIndent cs p.next greatest breaks
    else if c = '\t' then none
    else if isBreak c then
      scanIndent cs (p.newLine 1) (max greatest p.column) (breaks ++ breakText c)
    else some (max greatest p.column, breaks, ⟨c :: cs, p⟩)

/-- Scans the lines of a block scalar with a known indentation. -/
def scanLines (folded : Bool) (indent : Nat) :
    (inLine : Bool) → List Char → Position → BlockLines → Option (BlockLines × Cursor)
  | _, [], p, b => some (b, ⟨[], p⟩)
  | inLine, '\r' :: '\n' :: cs, p, b =>
    scanLines folded indent false cs (p.newLine 2)
      (if inLine then { b with lastBreak := ['\n'] } else { b with emptyLines := b.emptyLines ++ ['\n'] })
  | inLine, c :: cs, p, b =>
    if isBreak c then
      scanLines folded indent false cs (p.newLine 1)
        (if inLine then { b with lastBreak := breakText c }
         else { b with emptyLines := b.emptyLines ++ breakText c })
    else if inLine then scanLines folded indent true cs p.next (b.add c)
    else if p.column < indent then
      if c = ' ' then scanLines folded indent false cs p.next b
      else if c = '\t' then none
      else some (b, ⟨c :: cs, p⟩)
    else scanLines folded indent true cs p.next ((b.startLine folded (isSpace c)).add c)

/-- The chomping mark of a block scalar, if one stands here. -/
def chomping : List Char → Chomping × List Char
  | '+' :: cs => (.keep, cs)
  | '-' :: cs => (.strip, cs)
  | cs => (.clip, cs)

/-- The indentation mark of a block scalar, if one stands here: a digit other than zero. -/
def indentMark? : List Char → Option (Option Nat × List Char)
  | [] => some (none, [])
  | c :: cs =>
    if c = '0' then none
    else if c.isDigit then some (some (c.toNat - 48), cs)
    else some (none, c :: cs)

/-- The marks of a block scalar, which may stand in either order. -/
def blockMarks? (cs : List Char) : Option (Chomping × Option Nat × List Char) :=
  match chomping cs with
  | (.clip, cs) => (indentMark? cs).map fun (indent, cs) =>
    match indent with
    | none => (.clip, none, cs)
    | some n => let (mark, cs) := chomping cs; (mark, some n, cs)
  | (mark, cs) => (indentMark? cs).map fun (indent, cs) => (mark, indent, cs)

/-- The rest of a line after spaces and a comment, past its break; none if anything else stands
there. -/
def finishLine? (c : Cursor) : Option Cursor :=
  let spaces := c.rest.takeWhile isSpace
  let cs := c.rest.dropWhile isSpace
  let note := if cs.head? = some '#' then cs.takeWhile (!isBreak ·) else []
  let p := c.position.skip (spaces.length + note.length)
  match cs.drop note.length with
  | [] => some ⟨[], p⟩
  | '\r' :: '\n' :: cs => some ⟨cs, p.newLine 2⟩
  | d :: cs => if isBreak d then some ⟨cs, p.newLine 1⟩ else none

/-- Scans a block scalar, after its indicator, inside a block of the given indentation. -/
def scanBlock (folded : Bool) (outer : Int) (c : Cursor) : Option Scanned := do
  let (mark, width, cs) ← blockMarks? c.rest
  let header : Cursor := ⟨cs, c.position.skip (c.rest.length - cs.length)⟩
  let start ← finishLine? header
  let (indent, breaks, first) ← match width with
    | some n => some ((max outer 0).toNat + n, [], start)
    | none => (scanIndent start.rest start.position 0 []).map fun (greatest, breaks, first) =>
      (max (max greatest (outer + 1).toNat) 1, breaks, first)
  let (lines, rest) ←
    scanLines folded indent false first.rest first.position { emptyLines := breaks }
  return { reversed := lines.finish mark, rest }

end Formulary.Yaml
