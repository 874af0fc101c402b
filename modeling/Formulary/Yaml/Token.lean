import Formulary.Yaml.Scalar

/-!
# The tokens of YAML

Besides scalars, anchors, aliases and tags, a token is a mark of the structure, written or implied:
indentation starts and ends block collections, and a colon makes a key of what stands before it.
-/

namespace Formulary.Yaml

/-- A scalar as written: its text, and whether it is plain. -/
structure ScalarText where
  text : String
  plain : Bool
deriving DecidableEq, Repr

/-- A tag as written: a handle such as `!` or `!!`, and a suffix. -/
structure TagName where
  handle : String
  suffix : String
deriving DecidableEq, Repr

/-- A token of a YAML text. -/
inductive Token where
  | version (major minor : Nat)
  | tagHandle (handle replacement : String)
  | documentStart
  | documentEnd
  | blockSequence
  | blockMapping
  | blockEnd
  | openSequence
  | closeSequence
  | openMapping
  | closeMapping
  | blockEntry
  | flowEntry
  | key
  | value
  | anchor (name : String)
  | alias (name : String)
  | tag (name : TagName)
  | scalar (s : ScalarText)
deriving DecidableEq, Repr

/-- A run of name characters and what follows it. -/
def takeName (c : Cursor) : List Char × Cursor :=
  let name := c.rest.takeWhile isNameChar
  (name, ⟨c.rest.drop name.length, c.position.skip name.length⟩)

/-- The cursor after spaces and tabs. -/
def skipSpaces (c : Cursor) : Cursor :=
  let n := (c.rest.takeWhile isSpace).length
  ⟨c.rest.drop n, c.position.skip n⟩

/-- The cursor after one character. -/
def skipChar (c : Cursor) : Cursor :=
  ⟨c.rest.drop 1, c.position.next⟩

/-- An anchor or an alias after its indicator. -/
def scanAnchor? (c : Cursor) : Option (String × Cursor) :=
  let (name, c) := takeName c
  let ends := endsWord c.rest || match c.rest with
    | d :: _ => ['?', ':', ',', ']', '\x7d', '%', '@', '\x60'].contains d
    | [] => true
  if name.isEmpty || !ends then none else some (String.ofList name, c)

/-- A character of tags; commas and square brackets only where the tag has an end of its own. -/
def isTagChar (delimited : Bool) (c : Char) : Bool :=
  isNameChar c || ";/?:@&=+$.%!~*\x27()".toList.contains c
    || (delimited && (c = ',' || c = '[' || c = ']'))

/-- Resolves the escapes in a tag. -/
def unescapeTag? : List Char → Option (List Char)
  | [] => some []
  | '%' :: a :: b :: cs => do
    let c ← Text.hexChar? [a, b]
    return c :: (← unescapeTag? cs)
  | c :: cs => if c = '%' then none else (unescapeTag? cs).map (c :: ·)

/-- The characters of a tag that stand here. -/
def takeTag? (delimited : Bool) (c : Cursor) : Option (List Char × Cursor) := do
  let raw := c.rest.takeWhile (isTagChar delimited)
  return (← unescapeTag? raw, ⟨c.rest.drop raw.length, c.position.skip raw.length⟩)

/-- A handle, an exclamation mark with a name and another mark after it if need be; whether it has
the second mark. -/
def takeHandle? (c : Cursor) : Option (List Char × Bool × Cursor) :=
  match c.rest with
  | '!' :: _ =>
    let (name, c) := takeName (skipChar c)
    match c.rest with
    | '!' :: _ => some ('!' :: name ++ ['!'], true, skipChar c)
    | _ => some ('!' :: name, false, c)
  | _ => none

/-- A tag between angle brackets, after the opening one. -/
def scanDelimitedTag? (c : Cursor) : Option (TagName × Cursor) := do
  let (suffix, c) ← takeTag? true c
  if suffix.isEmpty || c.rest.head? != some '>' then none
  else some (⟨"", String.ofList suffix⟩, skipChar c)

/-- A tag that starts with a handle. -/
def scanShortTag? (c : Cursor) : Option (TagName × Cursor) := do
  let (handle, closed, c) ← takeHandle? c
  let (suffix, c) ← takeTag? false c
  if closed then
    if suffix.isEmpty then none else some (⟨String.ofList handle, String.ofList suffix⟩, c)
  else
    match handle.drop 1 ++ suffix with
    | [] => some (⟨"", "!"⟩, c)
    | cs => some (⟨"!", String.ofList cs⟩, c)

/-- A tag; a space, a line break or, in a flow collection, a comma must follow it. -/
def scanTag? (flow : Bool) (c : Cursor) : Option (TagName × Cursor) := do
  let (tag, c) ← match c.rest with
    | '!' :: '<' :: _ => scanDelimitedTag? (skipChar (skipChar c))
    | _ => scanShortTag? c
  if endsWord c.rest || (flow && c.rest.head? == some ',') then some (tag, c) else none

/-- A number of a version, nine digits at most. -/
def takeVersion? (c : Cursor) : Option (Nat × Cursor) :=
  let digits := c.rest.takeWhile Char.isDigit
  if digits.isEmpty || 9 < digits.length then none
  else some (digits.foldl (fun n d => 10 * n + (d.toNat - 48)) 0,
    ⟨c.rest.drop digits.length, c.position.skip digits.length⟩)

/-- The version a directive gives. -/
def scanVersion? (c : Cursor) : Option (Token × Cursor) := do
  let (major, c) ← takeVersion? (skipSpaces c)
  if c.rest.head? != some '.' then none
  else
    let (minor, c) ← takeVersion? (skipChar c)
    return (.version major minor, c)

/-- The tag handle a directive declares. -/
def scanTagHandle? (c : Cursor) : Option (Token × Cursor) := do
  let (handle, closed, c) ← takeHandle? (skipSpaces c)
  if !closed && handle.length != 1 then none
  else if !(c.rest.head?.any isSpace) then none
  else
    let (text, c) ← takeTag? true (skipSpaces c)
    if text.isEmpty || !endsWord c.rest then none
    else some (.tagHandle (String.ofList handle) (String.ofList text), c)

/-- A directive after its indicator, with the rest of its line. -/
def scanDirective? (c : Cursor) : Option (Token × Cursor) := do
  let (name, c) := takeName c
  if name.isEmpty || !endsWord c.rest then none
  else
    let (token, c) ← match String.ofList name with
      | "YAML" => scanVersion? c
      | "TAG" => scanTagHandle? c
      | _ => none
    return (token, ← finishLine? c)

end Formulary.Yaml
