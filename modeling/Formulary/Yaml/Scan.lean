import Formulary.Yaml.Token

/-!
# Scanning YAML

The scan goes through the text once. It keeps the stack of indentations, and for each nested flow
collection the place where a key may have started: when a colon follows, the mark of a key is put in
front of the tokens since that place. Such a key ends on the line it starts on, within 1024
characters, and a key that is required because it begins a line of a block mapping must be found.
-/

namespace Formulary.Yaml

/-- A place where a key may have started. -/
structure KeyStart where
  required : Bool
  /-- The number of tokens before the key. -/
  tokens : Nat
  position : Position
deriving DecidableEq, Repr

/-- The state of the scan. -/
structure Scan where
  cursor : Cursor
  tokens : Array Token := #[]
  /-- The column of the innermost block collection; -1 outside all of them. -/
  indent : Int := -1
  outer : List Int := []
  /-- A key may start here. -/
  keyAllowed : Bool := true
  /-- The possible key of the current flow collection, or of the block level outside all of them. -/
  keyStart : Option KeyStart := none
  /-- The possible keys of the levels around it. -/
  outerKeys : List (Option KeyStart) := []

namespace Scan

/-- The scan is inside a flow collection. -/
def inFlow (s : Scan) : Bool :=
  !s.outerKeys.isEmpty

/-- The column of the next character. -/
def column (s : Scan) : Nat :=
  s.cursor.position.column

/-- The scan with one more token. -/
def push (s : Scan) (t : Token) : Scan :=
  { s with tokens := s.tokens.push t }

/-- The scan with a token put in front of those from the given one on. -/
def insert (s : Scan) (i : Nat) (t : Token) : Scan :=
  { s with tokens := (s.tokens.extract 0 i).push t ++ s.tokens.extract i s.tokens.size }

/-- The scan at another place. -/
def moveTo (s : Scan) (c : Cursor) : Scan :=
  { s with cursor := c }

/-- The scan after some characters of a line. -/
def skip (s : Scan) (n : Nat) : Scan :=
  s.moveTo ⟨s.cursor.rest.drop n, s.cursor.position.skip n⟩

/-- A possible key is out of reach once its line or its 1024 characters are over. -/
def isStale (p : Position) (k : KeyStart) : Bool :=
  k.position.line < p.line || k.position.index + 1024 < p.index

/-- Gives up possible keys that are out of reach; none if one of them is required. -/
def dropStale? (s : Scan) : Option Scan := do
  let check (k : Option KeyStart) : Option (Option KeyStart) :=
    match k with
    | none => some none
    | some k =>
      if isStale s.cursor.position k then (if k.required then none else some none) else some (some k)
  return { s with keyStart := ← check s.keyStart, outerKeys := ← s.outerKeys.mapM check }

/-- Gives up the possible key; none if it is required. -/
def dropKey? (s : Scan) : Option Scan :=
  match s.keyStart with
  | some k => if k.required then none else some { s with keyStart := none }
  | none => some s

/-- A key may start here if keys are allowed. -/
def saveKey? (s : Scan) : Option Scan :=
  if s.keyAllowed then do
    let s ← s.dropKey?
    let required := !s.inFlow && s.indent == s.column
    return { s with keyStart := some ⟨required, s.tokens.size, s.cursor.position⟩ }
  else some s

/-- Starts a block collection at a column unless the current one is there already; its token is put
in front of those from the given one on. -/
def roll (s : Scan) (column : Nat) (place : Nat) (t : Token) : Scan :=
  if !s.inFlow && s.indent < column then
    { s.insert place t with indent := column, outer := s.indent :: s.outer }
  else s

/-- Ends collections while the current one is to the right of the column. -/
def unrollTo (column : Int) : (indent : Int) → List Int → Array Token → Int × List Int × Array Token
  | indent, [], tokens => (indent, [], tokens)
  | indent, i :: outer, tokens =>
    if column < indent then unrollTo column i outer (tokens.push .blockEnd)
    else (indent, i :: outer, tokens)

/-- Ends the block collections to the right of a column. -/
def unroll (s : Scan) (column : Int) : Scan :=
  if s.inFlow then s
  else
    let (indent, outer, tokens) := unrollTo column s.indent s.outer s.tokens
    { s with indent, outer, tokens }

/-- Skips blanks, comments and line breaks up to the next token. Outside flow collections a line
break allows keys again; a tab counts as a blank where no key may start. -/
def skipFiller (flow : Bool) :
    List Char → Position → (inComment keyAllowed : Bool) → Cursor × Bool
  | [], p, _, allowed => (⟨[], p⟩, allowed)
  | '\r' :: '\n' :: cs, p, _, allowed => skipFiller flow cs (p.newLine 2) false (allowed || !flow)
  | c :: cs, p, inComment, allowed =>
    if isBreak c then skipFiller flow cs (p.newLine 1) false (allowed || !flow)
    else if inComment || c = ' ' || (c = '\t' && (flow || !allowed)) then
      skipFiller flow cs p.next inComment allowed
    else if c = '#' then skipFiller flow cs p.next true allowed
    else (⟨c :: cs, p⟩, allowed)

/-- The scan at the start of the next token. -/
def toToken (s : Scan) : Scan :=
  let (cursor, keyAllowed) :=
    skipFiller s.inFlow s.cursor.rest s.cursor.position false s.keyAllowed
  { s with cursor, keyAllowed }

/-- Ends all block collections for a mark at the level of documents. -/
def leaveBlocks? (s : Scan) : Option Scan := do
  let s ← (s.unroll (-1)).dropKey?
  return { s with keyAllowed := false }

/-- A directive. -/
def directive? (s : Scan) : Option Scan := do
  let s ← s.leaveBlocks?
  let (t, c) ← scanDirective? (skipChar s.cursor)
  return (s.push t).moveTo c

/-- A mark of the start or the end of a document. -/
def documentMark? (s : Scan) (t : Token) : Option Scan := do
  return (← s.leaveBlocks?).push t |>.skip 3

/-- The start of a flow collection. -/
def openFlow? (s : Scan) (t : Token) : Option Scan := do
  let s ← s.saveKey?
  return { s.push t with
    keyStart := none, outerKeys := s.keyStart :: s.outerKeys, keyAllowed := true }.skip 1

/-- The end of a flow collection. -/
def closeFlow? (s : Scan) (t : Token) : Option Scan := do
  let s ← s.dropKey?
  let s := match s.outerKeys with
    | [] => s
    | k :: ks => { s with keyStart := k, outerKeys := ks }
  return { s.push t with keyAllowed := false }.skip 1

/-- A comma of a flow collection. -/
def flowEntry? (s : Scan) : Option Scan := do
  let s ← s.dropKey?
  return { s.push .flowEntry with keyAllowed := true }.skip 1

/-- Starts a block collection at the next character, where that is allowed. -/
def rollHere? (s : Scan) (t : Token) : Option Scan :=
  if s.inFlow then some s
  else if s.keyAllowed then some (s.roll s.column s.tokens.size t)
  else none

/-- A dash of a block sequence. -/
def blockEntry? (s : Scan) : Option Scan := do
  let s ← (← s.rollHere? .blockSequence).dropKey?
  return { s.push .blockEntry with keyAllowed := true }.skip 1

/-- A question mark in front of a key. -/
def explicitKey? (s : Scan) : Option Scan := do
  let s ← (← s.rollHere? .blockMapping).dropKey?
  return { s.push .key with keyAllowed := !s.inFlow }.skip 1

/-- A colon in front of a value; what started at the possible key becomes a key. -/
def value? (s : Scan) : Option Scan := do
  match s.keyStart with
  | some k =>
    let s := (s.insert k.tokens .key).roll k.position.column k.tokens .blockMapping
    return { s.push .value with keyStart := none, keyAllowed := false }.skip 1
  | none =>
    let s ← s.rollHere? .blockMapping
    return { s.push .value with keyAllowed := !s.inFlow }.skip 1

/-- An anchor or an alias. -/
def anchor? (s : Scan) (make : String → Token) : Option Scan := do
  let s ← s.saveKey?
  let (name, c) ← scanAnchor? (skipChar s.cursor)
  return { s.push (make name) with keyAllowed := false }.moveTo c

/-- A tag. -/
def tag? (s : Scan) : Option Scan := do
  let s ← s.saveKey?
  let (name, c) ← scanTag? s.inFlow s.cursor
  return { s.push (.tag name) with keyAllowed := false }.moveTo c

/-- A block scalar. -/
def blockScalar? (s : Scan) (folded : Bool) : Option Scan := do
  let s ← s.dropKey?
  let r ← scanBlock folded s.indent (skipChar s.cursor)
  return { s.push (.scalar ⟨r.text, false⟩) with keyAllowed := true }.moveTo r.rest

/-- A scalar in quotes. -/
def quotedScalar? (s : Scan)
    (scan : List Char → Position → List Char → Gap → Option Scanned) : Option Scan := do
  let s ← s.saveKey?
  let c := skipChar s.cursor
  let r ← scan c.rest c.position [] .empty
  return { s.push (.scalar ⟨r.text, false⟩) with keyAllowed := false }.moveTo r.rest

/-- A plain scalar. -/
def plainScalar? (s : Scan) : Option Scan := do
  let s ← s.saveKey?
  let r ← scanPlain s.inFlow (s.indent + 1) s.cursor.rest s.cursor.position [] .empty
  return { s.push (.scalar ⟨r.text, true⟩) with keyAllowed := r.brokeLine }.moveTo r.rest

/-- The characters that start tokens of other kinds than plain scalars. -/
def isIndicator (c : Char) : Bool :=
  "-?:,[]\x7b\x7d#&*!|>\x27\"%@\x60".toList.contains c

/-- A plain scalar may start with this character. -/
def startsPlain (flow : Bool) (c : Char) (cs : List Char) : Bool :=
  !(isIndicator c || isSpace c)
    || (c = '-' && !(cs.head?.any isSpace))
    || (!flow && (c = '?' || c = ':') && !endsWord cs)

/-- Scans the token that starts with the given character. -/
def token? (s : Scan) (c : Char) (cs : List Char) : Option Scan :=
  let flow := s.inFlow
  if s.column = 0 && c = '%' then s.directive?
  else if s.column = 0 && isMark '-' (c :: cs) then s.documentMark? .documentStart
  else if s.column = 0 && isMark '.' (c :: cs) then s.documentMark? .documentEnd
  else if c = '[' then s.openFlow? .openSequence
  else if c = '\x7b' then s.openFlow? .openMapping
  else if c = ']' then s.closeFlow? .closeSequence
  else if c = '\x7d' then s.closeFlow? .closeMapping
  else if c = ',' then s.flowEntry?
  else if c = '-' && endsWord cs then s.blockEntry?
  else if c = '?' && (flow || endsWord cs) then s.explicitKey?
  else if c = ':' && (flow || endsWord cs) then s.value?
  else if c = '*' then s.anchor? .alias
  else if c = '&' then s.anchor? .anchor
  else if c = '!' then s.tag?
  else if c = '|' && !flow then s.blockScalar? false
  else if c = '>' && !flow then s.blockScalar? true
  else if c = '\x27' then s.quotedScalar? scanSingle
  else if c = '"' then s.quotedScalar? scanDouble
  else if startsPlain flow c cs then s.plainScalar?
  else none

/-- Scans all tokens. A token takes at least one character, so `limit` need not exceed the length
of the text. -/
def run? : (limit : Nat) → Scan → Option (Array Token)
  | limit, s => do
    let s ← s.toToken.dropStale?
    let s := s.unroll s.column
    match s.cursor.rest, limit with
    | [], _ =>
      let s ← s.leaveBlocks?
      return s.tokens
    | _ :: _, 0 => none
    | c :: cs, limit + 1 => run? limit (← s.token? c cs)

end Scan

/-- The text without a byte-order mark at its start. -/
def withoutMark : List Char → List Char
  | c :: cs => if c = '\ufeff' then cs else c :: cs
  | [] => []

/-- The tokens of a text. -/
def tokens? (cs : List Char) : Option (Array Token) :=
  let cs := withoutMark cs
  if cs.all isPrintable then Scan.run? cs.length { cursor := ⟨cs, {}⟩ } else none

end Formulary.Yaml
