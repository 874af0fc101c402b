import Formulary.Text.Quoted
import Formulary.Value

/-!
# Length rules

The simple rules of a field bound the length of its text. They are declared as one encoded text, in
which only non-empty bracket groups count: a group `[_0_]` separates rules, the first group of a
rule names it and the second gives its length, so `[minlen][3][_0_][maxlen][10]` holds two rules.
-/

namespace Formulary

/-- A bound on the number of characters of a text. -/
inductive LengthRule where
  | min (length : Nat)
  | max (length : Nat)
deriving DecidableEq, Repr

/-- A text that breaks a length rule: the key the error is reported under, the bound, and the
length found. -/
structure LengthViolation where
  key : String
  required : Nat
  actual : Nat
deriving DecidableEq, Repr

/-- Why an encoded list of rules is refused. -/
inductive RuleListError where
  | emptyGroup
  | missingLength (rule : String)
  | badLength (rule raw : String)
  | unknownRule (rule : String)
deriving DecidableEq, Repr

namespace RuleListError

/-- The reason in words. -/
def message : RuleListError → String
  | .emptyGroup => "empty validator group"
  | .missingLength rule => rule ++ " requires a length argument"
  | .badLength rule raw =>
    rule ++ " length must be a non-negative integer (got " ++ Text.quoted raw ++ ")"
  | .unknownRule rule => "unknown validator '" ++ rule ++ "'"

end RuleListError

namespace LengthRule

/-- The key the rule's violations are reported under. -/
def key : LengthRule → String
  | .min _ => "minlength"
  | .max _ => "maxlength"

/-- The bound. -/
def length : LengthRule → Nat
  | .min n => n
  | .max n => n

/-- A text of this many characters breaks the rule. The empty text is not entered yet, hence not
too short. -/
def breaks : LengthRule → Nat → Bool
  | .min n, actual => 0 < actual && actual < n
  | .max n, actual => n < actual

/-- The violation of the rule by a value; only texts have a length. -/
def check (r : LengthRule) (v : Value) : Option LengthViolation :=
  v.textLength?.bind fun actual =>
    if r.breaks actual then some ⟨r.key, r.length, actual⟩ else none

/-- Scans bracket groups; `inside` holds the characters since the open bracket, in reverse. A group
without characters is no group, and neither is one that is never closed. -/
def scan : (inside : Option (List Char)) → List Char → List (List Char)
  | _, [] => []
  | none, c :: cs => scan (if c = '[' then some [] else none) cs
  | some held, c :: cs =>
    if c = ']' then
      if held.isEmpty then scan none cs else held.reverse :: scan none cs
    else scan (some (c :: held)) cs

/-- The contents of the non-empty bracket groups, in order. -/
def bracketed (s : String) : List String :=
  (scan none s.toList).map String.ofList

/-- The group that separates rules. -/
def separator : String := "_0_"

/-- Cuts the groups at the separators. -/
def groups : List String → List (List String)
  | [] => [[]]
  | t :: ts =>
    if t = separator then [] :: groups ts
    else match groups ts with
      | [] => [[t]]
      | g :: gs => (t :: g) :: gs

/-- The greatest length that can be declared. -/
def maxLength : Nat := UInt64.size - 1

/-- A length as declared: digits after an optional plus sign, with blanks around them. -/
def length? (raw : String) : Option Nat :=
  let digits := match Text.trim raw.toList with
    | '+' :: cs => Decimal.digits? cs
    | cs => Decimal.digits? cs
  digits.filter (· ≤ maxLength)

/-- The length a rule's arguments start with. -/
def lengthArgument (rule : String) : List String → Except RuleListError Nat
  | [] => .error (.missingLength rule)
  | raw :: _ =>
    match length? raw with
    | some n => .ok n
    | none => .error (.badLength rule raw)

/-- The rule a list of groups declares. -/
def ofGroup : List String → Except RuleListError LengthRule
  | [] => .error .emptyGroup
  | name :: arguments =>
    if name = "minlen" then (lengthArgument name arguments).map .min
    else if name = "maxlen" then (lengthArgument name arguments).map .max
    else .error (.unknownRule name)

/-- The rules an encoded list declares; the first rule in error decides. -/
def parseList (encoded : String) : Except RuleListError (List LengthRule) :=
  match bracketed encoded with
  | [] => .ok []
  | tokens => (groups tokens).mapM ofGroup

end LengthRule

end Formulary
