import Mathlib.Data.List.Forall2
import Formulary.Definition.Check
import Formulary.Proofs.LengthRule.Bracket
import Formulary.Proofs.Numeral
import Formulary.Proofs.Text.Pieces
import Formulary.Proofs.Traversal

/-!
# Encoded length rules

What an encoded list of length rules declares, said of its text alone. The tokens are what the brackets of the
text hold, and the separators among them cut them into groups. A group declares one rule, by a word that names
its kind, then its length, then whatever else there is (`Declares`), or it is at fault in just one way
(`Faulty`). `FieldDefinition.lengthRules_exact` says that reading the text comes to this, that the first group
at fault is the error, and that rules are read back from the text that they are written in, whatever stands
between its brackets.
-/

namespace Formulary

namespace LengthRule

/-! ## What a group declares -/

/-- The token gives a length of at most 64 bits: a numeral, with a plus sign or without, and blanks around. -/
def Length (raw : String) (n : Nat) : Prop :=
  n < 2 ^ 64 ∧ ∃ digits, Decimal.Numeral digits n ∧
    (Text.Stripped raw.toList digits ∨ Text.Stripped raw.toList ('+' :: digits))

/-- The words that name the kinds of rules. -/
inductive Keyword : String → (Nat → LengthRule) → Prop where
  | min : Keyword "minlen" .min
  | max : Keyword "maxlen" .max

/-- The group declares the rule: a word that names its kind, its length, and more that does not matter. -/
inductive Declares : List String → LengthRule → Prop where
  | rule {name kind raw n rest} (keyword : Keyword name kind) (length : Length raw n) :
      Declares (name :: raw :: rest) (kind n)

/-- What is wrong with a group that declares no rule. -/
inductive Faulty : List String → RuleListError → Prop where
  | empty : Faulty [] .emptyGroup
  | unknown {name rest} (other : ∀ kind, ¬ Keyword name kind) : Faulty (name :: rest) (.unknownRule name)
  | missing {name kind} (keyword : Keyword name kind) : Faulty [name] (.missingLength name)
  | bad {name kind raw rest} (keyword : Keyword name kind) (unreadable : ∀ n, ¬ Length raw n) :
      Faulty (name :: raw :: rest) (.badLength name raw)

/-! ## How rules are written -/

/-- The word that names the kind of the rule. -/
def word : LengthRule → String
  | .min _ => "minlen"
  | .max _ => "maxlen"

/-- The tokens that a rule is written in. -/
def tokens (r : LengthRule) : List String :=
  [r.word, toString r.length]

/-- The tokens that a list of rules is written in. -/
def encode (rules : List LengthRule) : List String :=
  [separator].intercalate (rules.map LengthRule.tokens)

/-- The text that has the tokens in brackets, with a text of its own before each of them and one at its end. -/
def spread (gap : Nat → String) : List String → String
  | [] => gap 0
  | t :: ts => gap 0 ++ "[" ++ t ++ "]" ++ spread (fun n => gap (n + 1)) ts

/-- What brackets can hold: some characters, and no closing bracket. -/
def Bracketable (t : String) : Prop :=
  t ≠ "" ∧ ']' ∉ t.toList

instance (t : String) : Decidable (Bracketable t) :=
  inferInstanceAs (Decidable (t ≠ "" ∧ ']' ∉ t.toList))

/-! ## Reading a group -/

variable {raw name encoded t : String} {kind : Nat → LengthRule} {n : Nat} {arguments ts group : List String}
  {groups : List (List String)} {r : LengthRule} {rules : List LengthRule}
  {e : RuleListError} {gap : Nat → String}

theorem length?_eq_some_iff : length? raw = some n ↔ Length raw n := by
  have fits : n ≤ maxLength ↔ n < 2 ^ 64 := Nat.lt_succ_iff.symm
  simp only [length?, Option.filter_eq_some_iff, decide_eq_true_eq, fits, Length, Text.stripped_iff]
  rw [and_comm, and_congr_right_iff]
  intro _
  split
  · rename_i digits signed
    rw [Decimal.digits?_eq_some_iff, signed]
    constructor
    · exact fun numeral => ⟨digits, numeral, .inr rfl⟩
    · rintro ⟨digits', numeral, rfl | ⟨⟨⟩⟩⟩
      -- A sign is no digit, so a text that begins with one is no numeral by itself.
      · exact absurd List.mem_cons_self (numeral.not_mem (by decide))
      · exact numeral
  · rename_i unsigned
    rw [Decimal.digits?_eq_some_iff]
    constructor
    · exact fun numeral => ⟨_, numeral, .inl rfl⟩
    · rintro ⟨digits, numeral, plain | signed⟩
      · exact plain ▸ numeral
      · exact absurd signed (unsigned digits)

theorem ofGroup_of_keyword (keyword : Keyword name kind) :
    ofGroup (name :: arguments) = (lengthArgument name arguments).map kind := by
  cases keyword <;> rfl

theorem ofGroup_of_unknown (other : ∀ kind, ¬ Keyword name kind) :
    ofGroup (name :: arguments) = .error (.unknownRule name) := by
  have notMin : name ≠ "minlen" := by
    rintro rfl
    exact other _ .min
  have notMax : name ≠ "maxlen" := by
    rintro rfl
    exact other _ .max
  rw [ofGroup, if_neg notMin, if_neg notMax]

theorem ofGroup_of_declares (declares : Declares group r) : ofGroup group = .ok r := by
  obtain ⟨keyword, length⟩ := declares
  rw [ofGroup_of_keyword keyword, lengthArgument, length?_eq_some_iff.2 length]
  rfl

theorem ofGroup_of_faulty (faulty : Faulty group e) : ofGroup group = .error e := by
  cases faulty with
  | empty => rfl
  | unknown other => exact ofGroup_of_unknown other
  | missing keyword => exact ofGroup_of_keyword keyword
  | @bad _ _ raw _ keyword none =>
    have unread : length? raw = Option.none :=
      Option.eq_none_iff_forall_ne_some.2 fun n read => none n (length?_eq_some_iff.1 read)
    rw [ofGroup_of_keyword keyword, lengthArgument, unread]
    rfl

/-- Every group declares a rule or is at fault. -/
theorem declares_or_faulty (group : List String) : (∃ r, Declares group r) ∨ ∃ e, Faulty group e := by
  match group with
  | [] => exact .inr ⟨_, .empty⟩
  | name :: arguments =>
    by_cases known : ∃ kind, Keyword name kind
    · obtain ⟨kind, keyword⟩ := known
      match arguments with
      | [] => exact .inr ⟨_, .missing keyword⟩
      | raw :: rest =>
        by_cases read : ∃ n, Length raw n
        · obtain ⟨n, length⟩ := read
          exact .inl ⟨_, .rule keyword length⟩
        · exact .inr ⟨_, .bad keyword (not_exists.1 read)⟩
    · exact .inr ⟨_, .unknown (not_exists.1 known)⟩

theorem ofGroup_eq_ok_iff : ofGroup group = .ok r ↔ Declares group r := by
  refine ⟨fun read => ?_, ofGroup_of_declares⟩
  rcases declares_or_faulty group with ⟨r', declares⟩ | ⟨e, faulty⟩
  · rw [ofGroup_of_declares declares] at read
    cases read
    exact declares
  · rw [ofGroup_of_faulty faulty] at read
    cases read

theorem ofGroup_eq_error_iff : ofGroup group = .error e ↔ Faulty group e := by
  refine ⟨fun read => ?_, ofGroup_of_faulty⟩
  rcases declares_or_faulty group with ⟨r', declares⟩ | ⟨e', faulty⟩
  · rw [ofGroup_of_declares declares] at read
    cases read
  · rw [ofGroup_of_faulty faulty] at read
    cases read
    exact faulty

/-! ## Reading a text -/

theorem groups_eq_splitOn : LengthRule.groups ts = ts.splitOn separator := by
  refine Text.eq_splitOn rfl (fun _ => if_pos rfl) (fun t _ first others kept pieces => ?_) ts
  rw [LengthRule.groups, if_neg kept, pieces]

/-- The tokens are what the brackets of the text hold. -/
theorem bracketed_eq_iff : bracketed encoded = ts ↔ Brackets encoded.toList (ts.map String.toList) := by
  rw [brackets_iff, bracketed]
  constructor
  · rintro rfl
    simp
  · intro read
    simp [read]

/-- **A list of tokens declares a rule for each of its groups**, in order, if there is a token at all. -/
theorem parseList_eq_ok_iff (read : bracketed encoded = ts) (cut : ts.splitOn separator = groups) :
    parseList encoded = .ok rules ↔
      ts = [] ∧ rules = [] ∨ ts ≠ [] ∧ List.Forall₂ Declares groups rules := by
  rw [parseList, read]
  cases ts with
  | nil => simp [eq_comm]
  | cons t ts => simp [groups_eq_splitOn, cut, mapM_eq_ok_iff, ofGroup_eq_ok_iff]

/-- There is an answer if there is no token, or if every group declares a rule. -/
theorem parseList_succeeds_iff (read : bracketed encoded = ts) (cut : ts.splitOn separator = groups) :
    (∃ rules, parseList encoded = .ok rules) ↔ ts = [] ∨ ∀ group ∈ groups, ∃ r, Declares group r := by
  simp only [parseList_eq_ok_iff read cut, exists_or, exists_and_left, exists_forall₂_iff, exists_eq, and_true]
  by_cases empty : ts = [] <;> simp [empty]

/-- **The first group that declares no rule is the error.** -/
theorem parseList_eq_error_iff (read : bracketed encoded = ts) (cut : ts.splitOn separator = groups) :
    parseList encoded = .error e ↔
      ts ≠ [] ∧
        ∃ n group, First (fun group => ∀ r, ¬ Declares group r) groups n group ∧ Faulty group e := by
  rw [parseList, read]
  cases ts with
  | nil => simp
  | cons t ts =>
    have undeclared : Unanswered ofGroup = fun group => ∀ r, ¬ Declares group r := by
      funext group
      simp [Unanswered, ofGroup_eq_ok_iff]
    simp [groups_eq_splitOn, cut, mapM_eq_error_iff, ofGroup_eq_error_iff, undeclared]

/-! ## Writing rules -/

/-- A length is read as it is written. -/
theorem length_toString (fits : n < 2 ^ 64) : Length (toString n) n := by
  have numeral : Decimal.Numeral (toString n).toList n := Decimal.numeral_toString n
  exact ⟨fits, _, numeral, .inl (Text.stripped_iff.2 numeral.tight.trim_eq)⟩

theorem declares_tokens (fits : r.length < 2 ^ 64) : Declares r.tokens r := by
  cases r with
  | min n => exact .rule .min (length_toString fits)
  | max n => exact .rule .max (length_toString fits)

/-- What a rule is written in can stand in brackets, and separates nothing. -/
theorem bracketable_of_mem_tokens (mem : t ∈ r.tokens) : Bracketable t ∧ t ≠ separator := by
  rw [tokens, List.mem_pair] at mem
  rcases mem with rfl | rfl
  · cases r with
    | min => exact (by decide : Bracketable "minlen" ∧ "minlen" ≠ separator)
    | max => exact (by decide : Bracketable "maxlen" ∧ "maxlen" ≠ separator)
  · have numeral : Decimal.Numeral (toString r.length).toList r.length := Decimal.numeral_toString r.length
    refine ⟨⟨?_, numeral.not_mem (by decide)⟩, ?_⟩
    · simp
    · intro same
      have mark : '_' ∈ (toString r.length).toList := by
        rw [same]
        decide
      exact numeral.not_mem (by decide) mark

theorem bracketable_of_mem_encode (mem : t ∈ encode rules) : Bracketable t := by
  rcases Text.mem_of_mem_intercalate mem with between | ⟨piece, written, among⟩
  · rw [List.mem_singleton.1 between]
    decide
  · obtain ⟨r, -, rfl⟩ := List.mem_map.1 written
    exact (bracketable_of_mem_tokens among).1

/-- The groups that rules are written in. -/
theorem splitOn_encode (nonempty : rules ≠ []) : (encode rules).splitOn separator = rules.map LengthRule.tokens := by
  refine List.splitOn_intercalate separator (fun piece written mem => ?_) (by simpa using nonempty)
  obtain ⟨r, -, rfl⟩ := List.mem_map.1 written
  exact (bracketable_of_mem_tokens mem).2 rfl

theorem scan_spread (plain : ∀ n, '[' ∉ (gap n).toList) (bracketable : ∀ t ∈ ts, Bracketable t) :
    scan none (spread gap ts).toList = ts.map String.toList := by
  induction ts generalizing gap with
  | nil =>
    rw [spread, ← List.append_nil (gap 0).toList, scan_append_of_not_mem (plain 0)]
    rfl
  | cons t ts ih =>
    obtain ⟨⟨nonempty, closes⟩, others⟩ := List.forall_mem_cons.1 bracketable
    have text : (spread gap (t :: ts)).toList =
        (gap 0).toList ++ ('[' :: t.toList ++ ']' :: (spread (fun n => gap (n + 1)) ts).toList) := by
      simp [spread]
    rw [text, scan_append_of_not_mem (plain 0), scan_bracket ⟨rfl, by simpa using nonempty, closes⟩,
      ih (fun n => plain (n + 1)) others, List.map_cons]

/-- **Tokens are read back from between their brackets**, if no text between them opens one. -/
theorem bracketed_spread (plain : ∀ n, '[' ∉ (gap n).toList) (bracketable : ∀ t ∈ ts, Bracketable t) :
    bracketed (spread gap ts) = ts := by
  rw [bracketed_eq_iff, brackets_iff]
  exact scan_spread plain bracketable

/-- **Rules are read back from the text that they are written in.** -/
theorem parseList_spread (nonempty : rules ≠ []) (fits : ∀ r ∈ rules, r.length < 2 ^ 64)
    (plain : ∀ n, '[' ∉ (gap n).toList) : parseList (spread gap (encode rules)) = .ok rules := by
  have read : bracketed (spread gap (encode rules)) = encode rules :=
    bracketed_spread plain fun t mem => bracketable_of_mem_encode mem
  rw [parseList_eq_ok_iff read (splitOn_encode nonempty)]
  refine .inr ⟨?_, ?_⟩
  · intro empty
    have single : rules.map LengthRule.tokens = [[]] := by
      rw [← splitOn_encode nonempty, empty, List.splitOn_nil]
    obtain ⟨r, -, ⟨⟩⟩ := List.map_eq_singleton_iff.1 single
  · rw [List.forall₂_map_left_iff, List.forall₂_same]
    exact fun r mem => declares_tokens (fits r mem)

end LengthRule

namespace FieldDefinition

open LengthRule

variable {field : FieldDefinition} {encoded : String} {rules : List LengthRule} {e : DefinitionError}

theorem lengthRules_eq_ok_iff :
    { field with rules := some encoded }.lengthRules = .ok rules ↔ parseList encoded = .ok rules := by
  cases read : parseList encoded <;> simp [lengthRules, read]

/-- The error names the field. -/
theorem lengthRules_eq_error_iff :
    { field with rules := some encoded }.lengthRules = .error e ↔
      ∃ reason, e = .invalidRules field.name reason ∧ parseList encoded = .error reason := by
  cases read : parseList encoded <;> simp [lengthRules, read, eq_comm]

/-- **Encoded rules are read exactly.** The tokens of a text are what its brackets hold, and the separators cut
them into groups; a text has just one list of each. It is read without an error just if it has no token, and
then it declares no rule, or if each group declares one, and then it declares these, in order. Otherwise the
error is that of the first group that declares none, for the field. And rules with lengths of at most 64 bits
are read back from the text that they are written in, whatever stands around and between its brackets, as long
as it opens none. -/
theorem lengthRules_exact (field : FieldDefinition) :
    (∀ encoded : String, ∃ tokens groups,
      (∀ others, Brackets encoded.toList (others.map String.toList) ↔ others = tokens) ∧
      (∀ others, Text.Pieces separator tokens others ↔ others = groups) ∧
      ((∃ rules, { field with rules := some encoded }.lengthRules = .ok rules) ↔
        tokens = [] ∨ ∀ group ∈ groups, ∃ r, Declares group r) ∧
      (∀ rules, { field with rules := some encoded }.lengthRules = .ok rules ↔
        tokens = [] ∧ rules = [] ∨ tokens ≠ [] ∧ List.Forall₂ Declares groups rules) ∧
      ∀ e, { field with rules := some encoded }.lengthRules = .error e ↔
        ∃ reason, e = .invalidRules field.name reason ∧ tokens ≠ [] ∧
          ∃ n group, First (fun group => ∀ r, ¬ Declares group r) groups n group ∧ Faulty group reason) ∧
      ∀ (rules : List LengthRule) (gap : Nat → String), rules ≠ [] → (∀ r ∈ rules, r.length < 2 ^ 64) →
        (∀ n, '[' ∉ (gap n).toList) →
          { field with rules := some (spread gap (encode rules)) }.lengthRules = .ok rules := by
  constructor
  · intro encoded
    refine ⟨bracketed encoded, (bracketed encoded).splitOn separator, fun others => ?_, fun others => ?_, ?_,
      fun rules => ?_, fun e => ?_⟩
    · rw [← bracketed_eq_iff, eq_comm]
    · rw [Text.pieces_iff, eq_comm]
    · simp only [lengthRules_eq_ok_iff]
      exact parseList_succeeds_iff rfl rfl
    · rw [lengthRules_eq_ok_iff, parseList_eq_ok_iff rfl rfl]
    · simp only [lengthRules_eq_error_iff, parseList_eq_error_iff rfl rfl]
  · intro rules gap nonempty fits plain
    rw [lengthRules_eq_ok_iff]
    exact parseList_spread nonempty fits plain

/-- A field with no rules yet. -/
def motto : FieldDefinition where
  name := "motto"

/-- The greatest length there is, between rules of other lengths, in a text that is not plain and closes brackets
that it did not open. -/
theorem motto_exact :
    let rules : List LengthRule := [.min 0, .max 18446744073709551615, .min 7]
    let encoded := "é][minlen]é][0]é][_0_]é][maxlen]é][18446744073709551615]é][_0_]é][minlen]é][7]é]"
    (rules ≠ [] ∧ ∀ r ∈ rules, r.length < 2 ^ 64) ∧
      { motto with rules := some encoded }.lengthRules = .ok rules := by
  intro rules encoded
  have fits : ∀ r ∈ rules, r.length < 2 ^ 64 := by decide
  have written : spread (fun _ => "é]") (encode rules) = encoded := by decide +kernel
  refine ⟨⟨nofun, fits⟩, ?_⟩
  rw [← written]
  exact (lengthRules_exact motto).2 rules _ nofun fits (fun _ => by decide)

end FieldDefinition

end Formulary
