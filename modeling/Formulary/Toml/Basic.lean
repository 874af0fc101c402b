import Formulary.Json.Basic

/-!
# TOML documents

A document is a table. A table remembers how it came about, since that decides what may be added to
it later: by its own header, implied by the header of a table inside it, by a dotted key, or written
inline.
-/

namespace Formulary

/-- How a table came about. -/
inductive TableKind where
  | header
  | implied
  | dotted
  | inline
deriving DecidableEq, Repr

/-- A TOML value. A date or a time is kept as the fact that it is one. -/
inductive Toml where
  | string (s : String)
  | integer (n : Int)
  | float (x : Number)
  | bool (b : Bool)
  | datetime
  | array (items : List Toml)
  | table (kind : TableKind) (entries : List (String × Toml))
  /-- Tables written one by one under the same header, the latest first. -/
  | tables (latestFirst : List (List (String × Toml)))

namespace Toml

/-- The entries of a table. -/
abbrev Entries := List (String × Toml)

/-- The value of a key. -/
def lookup? (entries : Entries) (key : String) : Option Toml :=
  (entries.find? (·.1 == key)).map (·.2)

/-- The entries with the value of a key replaced, or added at the end. -/
def put (key : String) (v : Toml) : Entries → Entries
  | [] => [(key, v)]
  | (k, w) :: rest => if k = key then (k, v) :: rest else (k, w) :: put key v rest

/-- Changes the table at a path of headers, implying the tables on the way to it; of tables written
one by one the latest is meant. -/
def modify? (f : Entries → Option Entries) : List String → Entries → Option Entries
  | [], entries => f entries
  | key :: path, entries =>
    match lookup? entries key with
    | none => (modify? f path []).map fun inner => put key (.table .implied inner) entries
    | some (.table .inline _) => none
    | some (.table kind inner) =>
      (modify? f path inner).map fun inner => put key (.table kind inner) entries
    | some (.tables (latest :: others)) =>
      (modify? f path latest).map fun latest => put key (.tables (latest :: others)) entries
    | some _ => none

/-- Adds a value under the last part of a key, in a table that has dotted keys only or, for a key of
one part, any table; the key must be new. -/
def insertLast? (v : Toml) (key : String) (fits : Bool) (entries : Entries) : Option Entries :=
  if fits && (lookup? entries key).isNone then some (put key v entries) else none

/-- Adds a value under a dotted key. A table on the way must not have a header of its own nor be
written inline, and the innermost one must come from dotted keys. -/
def insertDotted? (v : Toml) : (fits : Bool) → (path : List String) → Entries → Option Entries
  | _, [], _ => none
  | fits, [key], entries => insertLast? v key fits entries
  | _, key :: path, entries =>
    match lookup? entries key with
    | none => (insertDotted? v true path []).map fun inner => put key (.table .dotted inner) entries
    | some (.table .dotted inner) =>
      (insertDotted? v true path inner).map fun inner => put key (.table .dotted inner) entries
    | some (.table .implied inner) =>
      (insertDotted? v false path inner).map fun inner => put key (.table .implied inner) entries
    | some (.tables (latest :: others)) =>
      (insertDotted? v false path latest).map fun latest => put key (.tables (latest :: others)) entries
    | some _ => none

/-- Adds a value under a key. -/
def insert? (v : Toml) (path : List String) (entries : Entries) : Option Entries :=
  insertDotted? v true path entries

/-- Begins the table of a header; only an implied one may be there already. -/
def openTable? (key : String) (entries : Entries) : Option Entries :=
  match lookup? entries key with
  | none => some (put key (.table .header []) entries)
  | some (.table .implied inner) => some (put key (.table .header inner) entries)
  | some _ => none

/-- Begins one more of the tables of a header. -/
def openNextTable? (key : String) (entries : Entries) : Option Entries :=
  match lookup? entries key with
  | none => some (put key (.tables [[]]) entries)
  | some (.tables others) => some (put key (.tables ([] :: others)) entries)
  | some _ => none

mutual

/-- The value as a document; a date denotes nothing. -/
def toJson : Toml → Json
  | .string s => .text s
  | .integer n => .number (Number.ofInt n)
  | .float x => .number x
  | .bool b => .bool b
  | .datetime => .invalid
  | .array items => .array (itemsToJson items)
  | .table _ entries => .object (entriesToJson entries)
  | .tables latestFirst => .array (tablesToJson latestFirst).reverse

/-- The items of an array as documents. -/
def itemsToJson : List Toml → List Json
  | [] => []
  | v :: vs => v.toJson :: itemsToJson vs

/-- The entries of a table as members. -/
def entriesToJson : List (String × Toml) → List (String × Json)
  | [] => []
  | (k, v) :: rest => (k, v.toJson) :: entriesToJson rest

/-- Tables as documents. -/
def tablesToJson : List (List (String × Toml)) → List Json
  | [] => []
  | t :: ts => .object (entriesToJson t) :: tablesToJson ts

end

end Toml

end Formulary
