import Formulary.Definition.Document
import Formulary.Toml.Scalar

/-!
# Reading TOML

A document is a sequence of lines: keys with values, and headers that say which table the keys after
them belong to. Values nest up to a fixed depth, `room` of which is left; the functions that read
them recurse on a bound that the length of the text provides.
-/

namespace Formulary.Toml

/-- What is left after blanks and the comment that may end a line. -/
def skipComment? (cs : List Char) : Option (List Char) :=
  match skipSpaces cs with
  | '#' :: cs =>
    match cs.dropWhile isPlain with
    | [] => some []
    | rest => if (lineBreak? rest).isSome then some rest else none
  | cs => some cs

/-- What is left after blanks, line breaks and comments. -/
def skipFiller? : (limit : Nat) → List Char → Option (List Char)
  | 0, _ => none
  | limit + 1, cs => do
    let rest ← skipComment? cs
    match lineBreak? rest with
    | some rest => skipFiller? limit rest
    | none => some rest

mutual

/-- Reads a value. -/
def value? : (limit room : Nat) → List Char → Option (Read Toml)
  | 0, _, _ => none
  | limit + 1, room, cs =>
    match cs with
    | [] => none
    | '"' :: _ => (string? cs).map fun (s, rest) => (.string s, rest)
    | '\x27' :: _ => (string? cs).map fun (s, rest) => (.string s, rest)
    | '[' :: rest =>
      if room = 0 then none
      else (items? limit (room - 1) rest).map fun (items, rest) => (.array items, rest)
    | '\x7b' :: rest =>
      if room = 0 then none
      else (pairs? limit (room - 1) true [] (skipSpaces rest)).map fun (entries, rest) =>
        (.table .inline entries, rest)
    | _ =>
      let (word, rest) := takeWord cs
      (ofWord? word).map fun v => (v, rest)

/-- Reads the items of an array and its end. -/
def items? : (limit room : Nat) → List Char → Option (Read (List Toml))
  | 0, _, _ => none
  | limit + 1, room, cs => do
    match ← skipFiller? (cs.length + 1) cs with
    | ']' :: rest => some ([], rest)
    | rest =>
      let (item, rest) ← value? limit room rest
      match ← skipFiller? (rest.length + 1) rest with
      | ',' :: rest =>
        let (items, rest) ← items? limit room rest
        return (item :: items, rest)
      | ']' :: rest => some ([item], rest)
      | _ => none

/-- Reads the keys and values of an inline table and its end, after those in `entries`. -/
def pairs? : (limit room : Nat) → (first : Bool) → (entries : Entries) → List Char →
    Option (Read Entries)
  | 0, _, _, _, _ => none
  | limit + 1, room, first, entries, cs =>
    match cs, first with
    | '\x7d' :: rest, true => some (entries, rest)
    | _, _ => do
      let (path, rest) ← key? cs
      let rest ← expect? '=' rest
      let (v, rest) ← value? limit room (skipSpaces rest)
      let entries ← insert? v path entries
      match skipSpaces rest with
      | ',' :: rest => pairs? limit room false entries (skipSpaces rest)
      | '\x7d' :: rest => some (entries, rest)
      | _ => none

end

/-- A document being read: what it holds so far, and the path of the latest header. -/
structure Draft where
  root : Entries := []
  path : List String := []

namespace Draft

/-- Adds a value under a key of the latest header. -/
def add? (d : Draft) (key : List String) (v : Toml) : Option Draft :=
  (modify? (insert? v key) d.path d.root).map fun root => { d with root }

/-- Begins the table of a header, or one more of its tables. -/
def header? (d : Draft) (path : List String) (many : Bool) : Option Draft := do
  let key ← path.getLast?
  let start := if many then openNextTable? key else openTable? key
  return { root := ← modify? start path.dropLast d.root, path }

/-- Reads a header after its first bracket. -/
def readHeader? (d : Draft) : List Char → Option (Draft × List Char)
  | '[' :: cs => do
    let (path, rest) ← key? cs
    let rest ← expect? ']' rest
    let rest ← expect? ']' rest
    return (← d.header? path true, rest)
  | cs => do
    let (path, rest) ← key? cs
    let rest ← expect? ']' rest
    return (← d.header? path false, rest)

/-- Reads a key with its value. -/
def readPair? (d : Draft) (cs : List Char) : Option (Draft × List Char) := do
  let (key, rest) ← key? cs
  let rest ← expect? '=' rest
  let (v, rest) ← value? (2 * cs.length + 2) maxDepth (skipSpaces rest)
  return (← d.add? key v, rest)

/-- Reads the lines of a document; each takes at least one character. -/
def readLines? : (limit : Nat) → Draft → List Char → Option Draft
  | 0, _, _ => none
  | limit + 1, d, cs => do
    match ← skipFiller? (cs.length + 1) cs with
    | [] => some d
    | c :: rest =>
      let (d, rest) ← if c = '[' then d.readHeader? rest else d.readPair? (c :: rest)
      match ← skipComment? rest with
      | [] => some d
      | rest => readLines? limit d (← lineBreak? rest)

end Draft

/-- The text without a byte-order mark at its start. -/
def withoutMark : List Char → List Char
  | c :: cs => if c = '\ufeff' then cs else c :: cs
  | [] => []

/-- The entries of the table a text denotes. -/
def entries? (cs : List Char) : Option Entries :=
  let cs := withoutMark cs
  (Draft.readLines? (cs.length + 1) {} cs).map (·.root)

/-- The document of a text. -/
def read? (cs : List Char) : Option Json :=
  (entries? cs).map fun entries => (table .header entries).toJson

/-- TOML documents as definitions see them. -/
def view : DocumentView Json :=
  { Json.view with surplus := true }

end Formulary.Toml
