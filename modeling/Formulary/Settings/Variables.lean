import Formulary.Settings.Layer

/-!
# Environment variables as a layer

A variable whose name starts with `FORMLOGIC_`, in any case, sets the key that the rest of its name
spells, with hyphens for underscores. Its value is read as a truth value, a number, a quoted text, a
list in square brackets or a table in braces; whatever is none of these throughout is a text as it
stands.
-/

namespace Formulary

/-- The environment variables, each name once. -/
abbrev Variables := List (String × String)

namespace Variables

/-- The variables with one set anew. -/
def set (name value : String) : Variables → Variables
  | [] => [(name, value)]
  | (n, v) :: rest => if n = name then (n, value) :: rest else (n, v) :: set name value rest

/-- The variables that result from setting some one after another. -/
def ofList (l : List (String × String)) : Variables :=
  l.foldl (fun vs (name, value) => set name value vs) []

/-- The value of a variable. -/
def get? (vs : Variables) (name : String) : Option String :=
  (vs.find? (·.1 == name)).map (·.2)

end Variables

namespace Setting

/-- An ASCII blank. -/
def isBlank (c : Char) : Bool :=
  c = ' ' || c = '\t' || c = '\n' || c = '\x0c' || c = '\r'

/-- A character that words and keys end before. -/
def isSeparator (c : Char) : Bool :=
  c = ',' || c = '\x7b' || c = '\x7d' || c = '[' || c = ']'

/-- The text inside quotes, as written, and what follows the closing quote. -/
def quotedPart? : List Char → Option (List Char × List Char)
  | [] => none
  | '"' :: cs => some ([], cs)
  | '\\' :: c :: cs => (quotedPart? cs).map fun (part, rest) => ('\\' :: c :: part, rest)
  | c :: cs => (quotedPart? cs).map fun (part, rest) => (c :: part, rest)

/-- A text in quotes, with the escapes of TOML, and what follows it. -/
def quoted? (cs : List Char) : Option (String × List Char) := do
  let (part, rest) ← quotedPart? cs
  let (s, _) ← Toml.basic? (part ++ ['"']) []
  return (s, rest)

/-- An integer of 64 bits: with a sign if it is negative, and perhaps with one if it is not. -/
def word? (cs : List Char) : Option Int :=
  (Decimal.integer? cs).filter Yaml.isWord

/-- What a word sets. -/
def ofWord (cs : List Char) : Setting :=
  if cs.contains '.' && (Number.ofText? cs).isSome then .other
  else match word? cs with
    | some n => ofInt n
    | none => .text (String.ofList cs)

/-- Drops a word that must stand here. -/
def dropWord? : (word : List Char) → List Char → Option (List Char)
  | [], cs => some cs
  | _ :: _, [] => none
  | c :: word, d :: cs => if c = d then dropWord? word cs else none

/-- The key of an entry, and what follows it. -/
def key? (cs : List Char) : Option (String × List Char) :=
  match cs with
  | '"' :: cs => quoted? cs
  | _ =>
    let name := cs.takeWhile fun c => !isSeparator c && c ≠ '='
    if name.isEmpty then none
    else some (String.ofList (Text.dropTail isBlank name), cs.drop name.length)

mutual

/-- Reads a value with the blanks around it. -/
def value? : (limit : Nat) → List Char → Option (Setting × List Char)
  | 0, _ => none
  | limit + 1, cs => do
    let cs := cs.dropWhile isBlank
    let (v, rest) ← bare? limit cs
    return (v, rest.dropWhile isBlank)

/-- Reads a value. -/
def bare? : (limit : Nat) → List Char → Option (Setting × List Char)
  | 0, _ => none
  | limit + 1, cs =>
    match dropWord? ['t', 'r', 'u', 'e'] cs, dropWord? ['f', 'a', 'l', 's', 'e'] cs with
    | some rest, _ => some (.other, rest)
    | none, some rest => some (.other, rest)
    | none, none =>
      match cs with
      | '\x7b' :: rest => (pairs? limit rest).map fun (entries, rest) => (ofEntries entries, rest)
      | '[' :: rest => (items? limit rest).map fun rest => (.other, rest)
      | '"' :: rest => (quoted? rest).map fun (s, rest) => (.text s, rest)
      | '\x27' :: c :: '\x27' :: rest => some (.text (String.singleton c), rest)
      | '\x27' :: _ => none
      | _ =>
        let word := cs.takeWhile (!isSeparator ·)
        some (ofWord (Text.trim word), cs.drop word.length)

/-- Reads the values of a list and its end, and gives what follows. -/
def items? : (limit : Nat) → List Char → Option (List Char)
  | 0, _ => none
  | _, ']' :: rest => some rest
  | limit + 1, cs => do
    let (_, rest) ← value? limit cs
    match rest with
    | ',' :: rest => items? limit rest
    | ']' :: rest => some rest
    | _ => none

/-- Reads the entries of a table and its end. -/
def pairs? : (limit : Nat) → List Char → Option (List (String × Setting) × List Char)
  | 0, _ => none
  | _, '\x7d' :: rest => some ([], rest)
  | limit + 1, cs => do
    let (key, rest) ← key? (cs.dropWhile isBlank)
    match rest.dropWhile isBlank with
    | '=' :: rest =>
      let (v, rest) ← value? limit rest
      match rest with
      | ',' :: rest =>
        let (entries, rest) ← pairs? limit rest
        return ((key, v) :: entries, rest)
      | '\x7d' :: rest => some ([(key, v)], rest)
      | _ => none
    | _ => none

end

/-- What the value of a variable sets. -/
def ofVariable (value : String) : Setting :=
  let cs := Text.trim value.toList
  match value? (3 * cs.length + 3) cs with
  | some (v, []) => v
  | _ => .text (String.ofList cs)

/-- A setting under a path of keys. -/
def under : (path : List String) → Setting → Setting
  | [], v => v
  | key :: path, v => .table [(key, under path v)]

end Setting

namespace Layer

/-- The start of the names of variables that set something, in lower case. -/
def variableMark : List Char := "formlogic_".toList

/-- The path of keys a variable sets; points separate them. -/
def variablePath? (name : String) : Option (List String) := do
  let key ← Setting.dropWord? variableMark ((Text.trim name.toList).map Char.toLower)
  let key := key.map fun c => if c = '_' then '-' else c
  let path := Text.segments '.' (Text.trim key)
  if path.any List.isEmpty then none else some (path.map String.ofList)

/-- The layer of the environment variables, later ones over earlier ones. -/
def ofVariables (vs : Variables) : Layer :=
  vs.foldl (fun l (name, value) =>
    match variablePath? name with
    | some (key :: path) => overlay [(key, Setting.under path (Setting.ofVariable value))] l
    | _ => l) []

end Layer

end Formulary
