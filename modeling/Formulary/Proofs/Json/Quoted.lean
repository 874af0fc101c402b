import Mathlib.Tactic.SplitIfs
import Formulary.Json.Token
import Formulary.Json.Writer

/-!
# Strings of JSON

Which characters stand between the quotes of a string, and which text they spell (`Spelled`): a character for
itself, an escape, or a code, with two codes for a character beyond the first plane. A string is read just if it
is spelled so (`stringUnits?_eq_some`, `Spelled.exists_units`, `spelled_of_units`), and the text that is written
for a string spells it (`spelled_charText`).
-/

namespace Formulary.Json

/-- The code is that of one half of a surrogate pair. -/
def IsSurrogate (n : Nat) : Prop :=
  0xD800 ≤ n ∧ n < 0xE000

instance (n : Nat) : Decidable (IsSurrogate n) :=
  inferInstanceAs (Decidable (_ ∧ _))

/-- The character a surrogate pair stands for. -/
def paired (high low : Nat) : Char :=
  Char.ofNat (0x10000 + (high - 0xD800) * 0x400 + (low - 0xDC00))

/-- What stands between quotes, and the text it spells. -/
inductive Spelled : List Char → List Char → Prop where
  | nil : Spelled [] []
  | plain {c body cs} (unquoted : c ≠ '"') (unescaped : c ≠ '\\') (visible : 0x20 ≤ c.toNat)
      (later : Spelled body cs) : Spelled (c :: body) (c :: cs)
  | escape {e c body cs} (stands : escaped? e = some c) (later : Spelled body cs) :
      Spelled ('\\' :: e :: body) (c :: cs)
  | code {h₁ h₂ h₃ h₄ n body cs} (hex : Text.numberIn? 16 [h₁, h₂, h₃, h₄] = some n)
      (whole : ¬ IsSurrogate n) (later : Spelled body cs) :
      Spelled ('\\' :: 'u' :: h₁ :: h₂ :: h₃ :: h₄ :: body) (Char.ofNat n :: cs)
  | pair {h₁ h₂ h₃ h₄ high l₁ l₂ l₃ l₄ low body cs}
      (hex : Text.numberIn? 16 [h₁, h₂, h₃, h₄] = some high) (first : 0xD800 ≤ high ∧ high < 0xDC00)
      (hex' : Text.numberIn? 16 [l₁, l₂, l₃, l₄] = some low) (second : 0xDC00 ≤ low ∧ low < 0xE000)
      (later : Spelled body cs) :
      Spelled ('\\' :: 'u' :: h₁ :: h₂ :: h₃ :: h₄ :: '\\' :: 'u' :: l₁ :: l₂ :: l₃ :: l₄ :: body)
        (paired high low :: cs)

/-- What stands between quotes, and the units it is read as, one for each half of a pair. -/
inductive Units : List Char → List StringUnit → Prop where
  | nil : Units [] []
  | plain {c body units} (unquoted : c ≠ '"') (unescaped : c ≠ '\\') (visible : 0x20 ≤ c.toNat)
      (later : Units body units) : Units (c :: body) (.char c :: units)
  | escape {e c body units} (stands : escaped? e = some c) (later : Units body units) :
      Units ('\\' :: e :: body) (.char c :: units)
  | code {h₁ h₂ h₃ h₄ n body units} (hex : Text.numberIn? 16 [h₁, h₂, h₃, h₄] = some n)
      (later : Units body units) :
      Units ('\\' :: 'u' :: h₁ :: h₂ :: h₃ :: h₄ :: body) (.ofCode n :: units)

variable {n : Nat} {c e : Char} {body cs rest : List Char} {units : List StringUnit}

/-! ## Reading -/

theorem ofCode_of_surrogate (half : IsSurrogate n) : StringUnit.ofCode n = .surrogate n := by
  obtain ⟨low, high⟩ := half
  simp [StringUnit.ofCode, low, high]

theorem ofCode_of_not_surrogate (whole : ¬ IsSurrogate n) : StringUnit.ofCode n = .char (Char.ofNat n) := by
  rw [StringUnit.ofCode, if_neg]
  simpa [IsSurrogate] using whole

theorem ne_of_escaped? (stands : escaped? e = some c) : e ≠ 'u' := by
  rintro rfl
  cases stands

/-- A unit is put in front of what is read behind it. -/
theorem cons_unit_eq_some {unit : StringUnit} {all : List StringUnit} :
    (do let (units, rest) ← stringUnits? cs
        return (unit :: units, rest)) = some (all, rest) ↔
      ∃ units, stringUnits? cs = some (units, rest) ∧ unit :: units = all := by
  cases stringUnits? cs with
  | none => simp
  | some read =>
    obtain ⟨units, behind⟩ := read
    simp [and_assoc, and_comm]

/-- **The scanner of strings reads up to the closing quote**, unit by unit. -/
theorem stringUnits?_eq_some : stringUnits? cs = some (units, rest) ↔
    ∃ body, cs = body ++ '"' :: rest ∧ Units body units := by
  constructor
  · intro read
    fun_induction stringUnits? cs generalizing units rest with
    | case1 => cases read
    | case2 =>
      cases read
      exact ⟨[], rfl, .nil⟩
    | case3 h₁ h₂ h₃ h₄ cs ih =>
      obtain ⟨n, hex, read⟩ := Option.bind_eq_some_iff.1 read
      obtain ⟨units, later, rfl⟩ := cons_unit_eq_some.1 read
      obtain ⟨body, rfl, spelled⟩ := ih later
      exact ⟨_ :: _ :: h₁ :: h₂ :: h₃ :: h₄ :: body, rfl, .code hex spelled⟩
    | case4 e cs _ ih =>
      obtain ⟨c, stands, read⟩ := Option.bind_eq_some_iff.1 read
      obtain ⟨units, later, rfl⟩ := cons_unit_eq_some.1 read
      obtain ⟨body, rfl, spelled⟩ := ih later
      exact ⟨_ :: e :: body, rfl, .escape stands spelled⟩
    | case5 => cases read
    | case6 c cs unquoted _ _ plain ih =>
      obtain ⟨units, later, rfl⟩ := cons_unit_eq_some.1 read
      obtain ⟨body, rfl, spelled⟩ := ih later
      simp only [Bool.or_eq_true, decide_eq_true_eq, not_or, Nat.not_lt] at plain
      exact ⟨c :: body, rfl, .plain unquoted plain.1 plain.2 spelled⟩
  · rintro ⟨body, rfl, spelled⟩
    induction spelled with
    | nil => rfl
    | plain unquoted unescaped visible _ ih => simp [stringUnits?, unescaped, ih, visible]
    | escape stands _ ih => simp [stringUnits?, ne_of_escaped? stands, stands, ih]
    | code hex _ ih => simp [stringUnits?, hex, ih]

/-! ## Pairs -/

/-- What is spelled is read as units that can be joined. -/
theorem Spelled.exists_units (h : Spelled body cs) : ∃ units, Units body units ∧ pairUnits? units = some cs := by
  induction h with
  | nil => exact ⟨[], .nil, rfl⟩
  | plain unquoted unescaped visible _ ih =>
    obtain ⟨units, read, joined⟩ := ih
    exact ⟨_, .plain unquoted unescaped visible read, by rw [pairUnits?, joined, Option.map_some]⟩
  | escape stands _ ih =>
    obtain ⟨units, read, joined⟩ := ih
    exact ⟨_, .escape stands read, by rw [pairUnits?, joined, Option.map_some]⟩
  | code hex whole _ ih =>
    obtain ⟨units, read, joined⟩ := ih
    refine ⟨_, .code hex read, ?_⟩
    rw [ofCode_of_not_surrogate whole, pairUnits?, joined, Option.map_some]
  | pair hex first hex' second _ ih =>
    obtain ⟨units, read, joined⟩ := ih
    refine ⟨_, .code hex (.code hex' read), ?_⟩
    rw [ofCode_of_surrogate ⟨first.1, by omega⟩, ofCode_of_surrogate ⟨by omega, second.2⟩, pairUnits?,
      if_pos (by simp [first.2, second.1]), joined, Option.map_some, paired]

theorem Units.of_char (h : Units body (.char c :: units)) (later : ∀ body, Units body units → Spelled body cs) :
    Spelled body (c :: cs) := by
  generalize all : StringUnit.char c :: units = given at h
  cases h with
  | nil => cases all
  | plain unquoted unescaped visible read =>
    cases all
    exact .plain unquoted unescaped visible (later _ read)
  | escape stands read =>
    cases all
    exact .escape stands (later _ read)
  | @code _ _ _ _ n _ _ hex read =>
    by_cases half : IsSurrogate n
    · rw [ofCode_of_surrogate half] at all
      cases all
    · rw [ofCode_of_not_surrogate half] at all
      cases all
      exact .code hex half (later _ read)

theorem Units.of_surrogate (h : Units body (.surrogate n :: units)) :
    ∃ h₁ h₂ h₃ h₄ later, body = '\\' :: 'u' :: h₁ :: h₂ :: h₃ :: h₄ :: later ∧
      Text.numberIn? 16 [h₁, h₂, h₃, h₄] = some n ∧ IsSurrogate n ∧ Units later units := by
  generalize all : StringUnit.surrogate n :: units = given at h
  cases h with
  | nil => cases all
  | plain => cases all
  | escape => cases all
  | @code h₁ h₂ h₃ h₄ m later _ hex read =>
    by_cases half : IsSurrogate m
    · rw [ofCode_of_surrogate half] at all
      cases all
      exact ⟨h₁, h₂, h₃, h₄, later, rfl, hex, half, read⟩
    · rw [ofCode_of_not_surrogate half] at all
      cases all

/-- Units that can be joined are those of what is spelled. -/
theorem spelled_of_units (read : Units body units) (joined : pairUnits? units = some cs) : Spelled body cs := by
  fun_induction pairUnits? units generalizing body cs with
  | case1 =>
    cases joined
    cases read
    exact .nil
  | case2 c units ih =>
    obtain ⟨later, joined', rfl⟩ := Option.map_eq_some_iff.1 joined
    exact read.of_char fun body read => ih read joined'
  | case3 high low units split ih =>
    obtain ⟨later, joined', rfl⟩ := Option.map_eq_some_iff.1 joined
    obtain ⟨h₁, h₂, h₃, h₄, _, rfl, hex, half, read⟩ := read.of_surrogate
    obtain ⟨l₁, l₂, l₃, l₄, _, rfl, hex', half', read⟩ := read.of_surrogate
    simp only [Bool.and_eq_true, decide_eq_true_eq] at split
    exact .pair hex ⟨half.1, split.1⟩ hex' ⟨split.2, half'.2⟩ (ih read joined')
  | case4 => cases joined
  | case5 => cases joined

/-! ## Writing -/

/-- Two hexadecimal digits are enough for the code of a control character. -/
theorem numberIn?_hexDigit (low : n < 0x20) :
    Text.numberIn? 16 ['0', '0', Text.hexDigit (n / 16), Text.hexDigit (n % 16)] = some n := by
  revert n
  decide

/-- A character as it is written spells itself. -/
theorem Spelled.charText (later : Spelled body cs) : Spelled (charText c ++ body) (c :: cs) := by
  unfold Json.charText
  split_ifs with quote backslash backspace feed newline carriage tab control
  -- seven characters have an escape of one letter
  iterate 7
    case pos =>
      subst c
      exact .escape rfl later
  case pos =>
    have whole : ¬ IsSurrogate c.toNat := by
      rintro ⟨low, -⟩
      omega
    have spelled := Spelled.code (numberIn?_hexDigit control) whole later
    rwa [Char.ofNat_toNat] at spelled
  case neg => exact .plain quote backslash (Nat.le_of_not_lt control) later

/-- **The text that is written for a string spells it.** -/
theorem spelled_charText : Spelled (cs.flatMap charText) cs := by
  induction cs with
  | nil => exact .nil
  | cons c cs ih => exact ih.charText

end Formulary.Json
