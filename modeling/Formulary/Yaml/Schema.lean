import Formulary.Definition.Document
import Formulary.Yaml.Node

/-!
# What YAML nodes denote

A plain scalar without a tag denotes nothing, a truth value, an integer, a real number or its text,
in this order of preference. Where a text is expected any scalar will do, and its text counts.

Integers are read up to 128 bits, but a field value of more than 64 bits is refused.
-/

namespace Formulary.Yaml

/-- What a plain scalar denotes. -/
inductive Plain where
  | null
  | bool (b : Bool)
  | integer (n : Int)
  | real (x : Number)
  | text (s : String)
deriving DecidableEq, Repr

namespace Plain

/-- The words for nothing. -/
def isNullWord (s : String) : Bool :=
  ["null", "Null", "NULL", "~"].contains s

/-- The truth value of a word. -/
def boolWord? (s : String) : Option Bool :=
  if ["true", "True", "TRUE"].contains s then some true
  else if ["false", "False", "FALSE"].contains s then some false
  else none

/-- The number a non-empty run of digits denotes. -/
def digits? (base : Nat) (cs : List Char) : Option Nat :=
  if cs.isEmpty then none else Text.numberIn? base cs

/-- A sign in front of a number. -/
def isSign (c : Char) : Bool :=
  c = '+' || c = '-'

/-- Digits that start with a needless zero, which denote a text. -/
def hasNeedlessZero (cs : List Char) : Bool :=
  let ds := if cs.head?.any isSign then cs.drop 1 else cs
  match ds with
  | '0' :: d :: rest => (d :: rest).all Char.isDigit
  | _ => false

/-- A natural number in base 16, 8, 2 or 10. -/
def magnitude? (cs : List Char) : Option Nat :=
  match cs with
  | '0' :: 'x' :: ds => digits? 16 ds
  | '0' :: 'o' :: ds => digits? 8 ds
  | '0' :: 'b' :: ds => digits? 2 ds
  | ds => if hasNeedlessZero ds then none else digits? 10 ds

/-- The integer a scalar denotes, within 128 bits. -/
def integer? (cs : List Char) : Option Int :=
  match cs with
  | '-' :: ds => ((magnitude? ds).filter (· ≤ Nat.pow 2 127)).map fun n => -(n : Int)
  | '+' :: ds => ((magnitude? ds).filter (· < Nat.pow 2 128)).map Int.ofNat
  | ds => ((magnitude? ds).filter (· < Nat.pow 2 128)).map Int.ofNat

/-- The real number a scalar denotes: one of the words for infinities and not-a-number, or a finite
decimal. -/
def real? (s : String) : Option Number :=
  if [".inf", ".Inf", ".INF", "+.inf", "+.Inf", "+.INF"].contains s then some (.infinity false)
  else if ["-.inf", "-.Inf", "-.INF"].contains s then some (.infinity true)
  else if [".nan", ".NaN", ".NAN"].contains s then some .nan
  else
    let cs := s.toList
    let cs := if cs.head? = some '+' then cs.drop 1 else cs
    if cs.length < s.length && cs.head?.any isSign then none
    else (Number.ofText? cs).filter Number.isFinite

/-- What a plain scalar denotes. -/
def ofText (s : String) : Plain :=
  if s.isEmpty || isNullWord s then .null
  else match boolWord? s with
    | some b => .bool b
    | none => match integer? s.toList with
      | some n => .integer n
      | none =>
        if hasNeedlessZero s.toList then .text s
        else match real? s with
          | some x => .real x
          | none => .text s

end Plain

/-- An integer that fits a word of 64 bits, with or without a sign. -/
def isWord (n : Int) : Bool :=
  Int64.minValue.toInt ≤ n && n < UInt64.size

namespace Plain

/-- The field value a scalar denotes. -/
def value? : Plain → Option Value
  | .null => some .null
  | .bool _ => none
  | .integer n => if isWord n then some (.number (Number.ofInt n)) else none
  | .real x => some (.number x)
  | .text s => some (.text s)

end Plain

/-- The start of the tags of the core types. -/
def coreTag (name : String) : String :=
  "tag:yaml.org,2002:" ++ name

/-- A tag that is none of the standard ones. -/
def hasOwnTag (tag : Option String) : Bool :=
  tag.any fun t => t.toList.head? = some '!'

namespace Node

/-- What a scalar denotes; nothing at all if it contradicts its tag or has a tag of its own. -/
def denoted? (tag : Option String) (s : ScalarText) : Option Plain :=
  match tag with
  | none => some (if s.plain then Plain.ofText s.text else .text s.text)
  | some t =>
    if hasOwnTag (some t) then none
    else if t = coreTag "null" then if Plain.isNullWord s.text then some .null else none
    else if t = coreTag "bool" then (Plain.boolWord? s.text).map .bool
    else if t = coreTag "int" then (Plain.integer? s.text.toList).map .integer
    else if t = coreTag "float" then (Plain.real? s.text).map .real
    else some (.text s.text)

/-- The text of a scalar, however it is written. -/
def text? : Node → Option String
  | .scalar _ s => some s.text
  | _ => none

/-- The field value of a scalar. -/
def value? : Node → Option Value
  | .scalar tag s => (denoted? tag s).bind Plain.value?
  | _ => none

/-- Nothing is written here. -/
def isBlank : Node → Bool
  | .absent => true
  | .scalar _ s => s.plain && s.text.isEmpty
  | _ => false

/-- The items of a sequence; none where nothing is written. -/
def items? : Node → Option (List Node)
  | .sequence _ items => some items
  | n => if n.isBlank then some [] else none

/-- The entries of a mapping with texts as keys; none where nothing is written. -/
def members? : Node → Option (List (String × Node))
  | .mapping _ entries => entries.mapM fun (k, v) => k.text?.map fun name => (name, v)
  | n => if n.isBlank then some [] else none

/-- The node denotes nothing. -/
def isNull : Node → Bool
  | .absent => true
  | .scalar none s => s.plain && (s.text.isEmpty || Plain.isNullWord s.text)
  | .scalar (some t) s => s.plain && t = coreTag "null" && Plain.isNullWord s.text
  | _ => false

/-- YAML nodes as definitions see them. -/
def view : DocumentView Node where
  text? := text?
  value? := value?
  items? := items?
  members? := members?
  isAbsent := isNull
  positional := false
  surplus := false

end Node

end Formulary.Yaml
