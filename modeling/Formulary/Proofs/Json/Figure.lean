import Formulary.Json.Token
import Formulary.Json.Writer
import Formulary.Proofs.Shortest

/-!
# Numbers of JSON

A number is written as digits, a fraction and an exponent behind its sign, and stands for the number nearest to
that decimal (`Figure`). What the scanner takes for a number is one (`figure_of_number?`), and it takes all of
it if no more of one follows (`Figure.number?_append`). The text that is written for a number is one that
stands for it (`figure_decimalText`, `figure_shortest`).
-/

namespace Formulary.Json

open Decimal (natOfDigits digitsOf Numeral)

/-- There are only digits in the text, and one at least. -/
structure Digits (digits : List Char) : Prop where
  nonempty : digits ≠ []
  decimal : ∀ c ∈ digits, c.isDigit = true

/-- What stands before the point: digits, of which the first is zero only if it is the only one. -/
structure Whole (digits : List Char) : Prop extends Digits digits where
  trimmed : digits.head? = some '0' → digits = ['0']

/-- What stands for the digits behind the point: nothing if there are none. -/
inductive Fraction : List Char → List Char → Prop where
  | none : Fraction [] []
  | point {digits} (digital : Digits digits) : Fraction ('.' :: digits) digits

/-- The digits of an exponent, behind a sign or without one. -/
inductive Power : List Char → Int → Prop where
  | bare {digits n} (numeral : Numeral digits n) : Power digits n
  | plus {digits n} (numeral : Numeral digits n) : Power ('+' :: digits) n
  | minus {digits n} (numeral : Numeral digits n) : Power ('-' :: digits) (-n)

/-- What stands for the power of ten: nothing if it is that of zero. -/
inductive Exponent : List Char → Int → Prop where
  | none : Exponent [] 0
  | marked {letter text e} (letter_eq : letter = 'e' ∨ letter = 'E') (power : Power text e) :
      Exponent (letter :: text) e

/-- The text is a number, and this is the nearest one of the format. -/
inductive Figure : List Char → Number → Prop where
  | mk {negative whole fraction part exponent e n} (ofWhole : Whole whole) (ofPart : Fraction fraction part)
      (ofExponent : Exponent exponent e) (numeral : Numeral (whole ++ part) n) :
      Figure (Number.signText negative ++ whole ++ fraction ++ exponent)
        (.ofDecimal negative ⟨n, e - part.length⟩)

/-- The text does not begin with a digit. -/
def NoDigit (rest : List Char) : Prop :=
  ∀ c, rest.head? = some c → c.isDigit = false

/-- The text does not go on with a number. -/
structure Delimited (rest : List Char) : Prop where
  digit : NoDigit rest
  point : rest.head? ≠ some '.'
  lower : rest.head? ≠ some 'e'
  upper : rest.head? ≠ some 'E'

variable {negative : Bool} {n : Nat} {e : Int} {cs ds rest text part : List Char} {x : Number}

/-! ## Reading -/

theorem takeWhile_digits (decimal : ∀ c ∈ ds, c.isDigit = true) (ends : NoDigit rest) :
    (ds ++ rest).takeWhile Char.isDigit = ds ∧ (ds ++ rest).dropWhile Char.isDigit = rest := by
  rw [List.takeWhile_append_of_pos decimal, List.dropWhile_append_of_pos decimal]
  cases rest with
  | nil => exact ⟨List.append_nil ds, rfl⟩
  | cons c rest =>
    have other : ¬ c.isDigit = true := by rw [ends c rfl]; exact Bool.false_ne_true
    rw [List.takeWhile_cons_of_neg other, List.dropWhile_cons_of_neg other]
    exact ⟨List.append_nil ds, rfl⟩

theorem Digits.someDigits?_append (h : Digits ds) (ends : NoDigit rest) :
    someDigits? (ds ++ rest) = some (ds, rest) := by
  obtain ⟨taken, dropped⟩ := takeWhile_digits h.decimal ends
  simp [someDigits?, taken, dropped, h.nonempty]

theorem digits_of_someDigits? (read : someDigits? cs = some (ds, rest)) : cs = ds ++ rest ∧ Digits ds := by
  simp only [someDigits?, List.isEmpty_iff, Option.ite_none_left_eq_some, Option.some.injEq,
    Prod.mk.injEq] at read
  obtain ⟨nonempty, rfl, rfl⟩ := read
  exact ⟨List.takeWhile_append_dropWhile.symm, nonempty, fun c mem => List.mem_takeWhile_imp mem⟩

theorem Whole.wholePart?_append (h : Whole ds) (ends : NoDigit rest) :
    wholePart? (ds ++ rest) = some (ds, rest) := by
  obtain ⟨d, ds, rfl⟩ := List.exists_cons_of_ne_nil h.nonempty
  obtain ⟨first, others⟩ := List.forall_mem_cons.1 h.decimal
  obtain ⟨taken, dropped⟩ := takeWhile_digits others ends
  by_cases zero : d = '0'
  · obtain ⟨-, rfl⟩ := List.cons.inj (h.trimmed (by rw [zero]; rfl))
    simp [wholePart?, zero]
  · simp [wholePart?, zero, first, taken, dropped]

theorem whole_of_wholePart? (read : wholePart? cs = some (ds, rest)) : cs = ds ++ rest ∧ Whole ds := by
  cases cs with
  | nil => cases read
  | cons c cs =>
    rw [wholePart?] at read
    split_ifs at read with zero digit
    · cases read
      exact ⟨by rw [zero]; rfl, ⟨by simp, by simp⟩, fun _ => rfl⟩
    · cases read
      refine ⟨?_, ⟨List.cons_ne_nil _ _, ?_⟩, ?_⟩
      · rw [List.cons_append, List.takeWhile_append_dropWhile]
      · exact List.forall_mem_cons.2 ⟨digit, fun c mem => List.mem_takeWhile_imp mem⟩
      · exact fun first => absurd (Option.some.inj first) zero

theorem Fraction.fractionPart?_append (h : Fraction text part) (digit : NoDigit rest)
    (point : rest.head? ≠ some '.') : fractionPart? (text ++ rest) = some (part, rest) := by
  cases h with
  | none =>
    cases rest with
    | nil => rfl
    | cons c rest =>
      have other : c ≠ '.' := fun same => point (by rw [same]; rfl)
      simp [fractionPart?, other]
  | point digital => exact digital.someDigits?_append digit

theorem fraction_of_fractionPart? (read : fractionPart? cs = some (part, rest)) :
    ∃ text, cs = text ++ rest ∧ Fraction text part := by
  unfold fractionPart? at read
  split at read
  · obtain ⟨rfl, digital⟩ := digits_of_someDigits? read
    exact ⟨'.' :: part, rfl, .point digital⟩
  · cases read
    exact ⟨[], rfl, .none⟩

theorem Digits.numeral (h : Digits ds) : Numeral ds (natOfDigits ds) :=
  ⟨h.nonempty, h.decimal, Decimal.natOfDigits_eq_ofDigits.symm⟩

theorem natOfDigits_of_numeral (h : Numeral ds n) : natOfDigits ds = n :=
  Decimal.natOfDigits_eq_ofDigits.trans h.value

theorem digits_of_numeral (h : Numeral ds n) : Digits ds :=
  ⟨h.nonempty, h.decimal⟩

theorem Power.exponentDigits?_append (h : Power text e) (ends : NoDigit rest) :
    exponentDigits? (text ++ rest) = some (e, rest) := by
  cases h with
  | bare numeral =>
    have taken := (digits_of_numeral numeral).someDigits?_append ends
    obtain ⟨d, ds, rfl⟩ := List.exists_cons_of_ne_nil numeral.nonempty
    have first : d.isDigit = true := numeral.decimal d List.mem_cons_self
    have unsigned : d ≠ '+' ∧ d ≠ '-' := by
      constructor <;> (rintro rfl; cases first)
    rw [List.cons_append] at taken ⊢
    simp [exponentDigits?, unsigned, taken, natOfDigits_of_numeral numeral]
  | plus numeral =>
    simp [exponentDigits?, (digits_of_numeral numeral).someDigits?_append ends, natOfDigits_of_numeral numeral]
  | minus numeral =>
    simp [exponentDigits?, (digits_of_numeral numeral).someDigits?_append ends, natOfDigits_of_numeral numeral]

theorem power_of_exponentDigits? (read : exponentDigits? cs = some (e, rest)) :
    ∃ text, cs = text ++ rest ∧ Power text e := by
  unfold exponentDigits? at read
  split at read
  all_goals
    obtain ⟨⟨ds, behind⟩, taken, same⟩ := Option.map_eq_some_iff.1 read
    obtain ⟨rfl, digital⟩ := digits_of_someDigits? taken
    cases same
  · exact ⟨_, rfl, .plus digital.numeral⟩
  · exact ⟨_, rfl, .minus digital.numeral⟩
  · exact ⟨_, rfl, .bare digital.numeral⟩

theorem Exponent.exponentPart?_append (h : Exponent text e) (ends : Delimited rest) :
    exponentPart? (text ++ rest) = some (e, rest) := by
  cases h with
  | none =>
    cases rest with
    | nil => rfl
    | cons c rest =>
      have lower : c ≠ 'e' := fun same => ends.lower (by rw [same]; rfl)
      have upper : c ≠ 'E' := fun same => ends.upper (by rw [same]; rfl)
      simp [exponentPart?, lower, upper]
  | marked letter_eq power =>
    have taken := power.exponentDigits?_append ends.digit
    rcases letter_eq with rfl | rfl <;> exact taken

theorem exponent_of_exponentPart? (read : exponentPart? cs = some (e, rest)) :
    ∃ text, cs = text ++ rest ∧ Exponent text e := by
  unfold exponentPart? at read
  split at read
  · obtain ⟨text, rfl, power⟩ := power_of_exponentDigits? read
    exact ⟨_, rfl, .marked (.inl rfl) power⟩
  · obtain ⟨text, rfl, power⟩ := power_of_exponentDigits? read
    exact ⟨_, rfl, .marked (.inr rfl) power⟩
  · cases read
    exact ⟨[], rfl, .none⟩

/-- No digit stands where a fraction or an exponent begins. -/
theorem Exponent.noDigit (h : Exponent text e) (ends : Delimited rest) : NoDigit (text ++ rest) := by
  cases h with
  | none => exact ends.digit
  | marked letter_eq power =>
    rintro c ⟨⟩
    rcases letter_eq with rfl | rfl <;> rfl

theorem Exponent.noPoint (h : Exponent text e) (ends : Delimited rest) : (text ++ rest).head? ≠ some '.' := by
  cases h with
  | none => exact ends.point
  | marked letter_eq power => rcases letter_eq with rfl | rfl <;> simp

theorem Fraction.noDigit (h : Fraction text part) (ends : NoDigit rest) : NoDigit (text ++ rest) := by
  cases h with
  | none => exact ends
  | point =>
    rintro c ⟨⟩
    rfl

theorem Fraction.part_decimal (h : Fraction text part) : ∀ c ∈ part, c.isDigit = true := by
  cases h with
  | none => simp
  | point digital => exact digital.decimal

/-- **All of a number is read** where no more of one follows. -/
theorem Figure.number?_append (h : Figure text x) (ends : Delimited rest) :
    number? (text ++ rest) = some (x, rest) := by
  obtain ⟨ofWhole, ofPart, ofExponent, numeral⟩ := h
  rename_i negative whole fraction part exponent e n
  have noDigit := ofExponent.noDigit ends
  have afterWhole := ofWhole.wholePart?_append (ofPart.noDigit noDigit)
  have afterPart := ofPart.fractionPart?_append noDigit (ofExponent.noPoint ends)
  have unsigned : unsigned? negative (whole ++ (fraction ++ (exponent ++ rest))) =
      some (.ofDecimal negative ⟨n, e - part.length⟩, rest) := by
    simp [unsigned?, afterWhole, afterPart, ofExponent.exponentPart?_append ends,
      natOfDigits_of_numeral numeral]
  cases negative with
  | true => simpa [Number.signText, number?] using unsigned
  | false =>
    obtain ⟨d, ds, rfl⟩ := List.exists_cons_of_ne_nil ofWhole.nonempty
    have first : d.isDigit = true := ofWhole.decimal d List.mem_cons_self
    have positive : d ≠ '-' := by
      rintro rfl
      cases first
    simpa [Number.signText, number?, positive] using unsigned

theorem digits_append (digits : Digits ds) (decimal : ∀ c ∈ part, c.isDigit = true) : Digits (ds ++ part) :=
  ⟨by simp [digits.nonempty], List.forall_mem_append.2 ⟨digits.decimal, decimal⟩⟩

/-- What stands for the parts of a number, one behind the other, stands for the number. -/
theorem figure_of_parts {whole fraction exponent : List Char} (ofWhole : Whole whole)
    (ofPart : Fraction fraction part) (ofExponent : Exponent exponent e) :
    Figure (Number.signText negative ++ (whole ++ fraction ++ exponent))
      (.ofDecimal negative ⟨natOfDigits (whole ++ part), e - part.length⟩) := by
  rw [← List.append_assoc, ← List.append_assoc]
  exact .mk ofWhole ofPart ofExponent (digits_append ofWhole.toDigits ofPart.part_decimal).numeral

theorem figure_of_unsigned? (read : unsigned? negative cs = some (x, rest)) :
    ∃ text, cs = text ++ rest ∧ Figure (Number.signText negative ++ text) x := by
  simp only [unsigned?, Option.bind_eq_bind, Option.bind_eq_some_iff, Prod.exists, Option.pure_def,
    Option.some.injEq, Prod.mk.injEq] at read
  obtain ⟨whole, _, readWhole, part, _, readPart, e, _, readExponent, rfl, rfl⟩ := read
  obtain ⟨rfl, ofWhole⟩ := whole_of_wholePart? readWhole
  obtain ⟨fraction, rfl, ofPart⟩ := fraction_of_fractionPart? readPart
  obtain ⟨exponent, rfl, ofExponent⟩ := exponent_of_exponentPart? readExponent
  exact ⟨whole ++ fraction ++ exponent, by simp only [List.append_assoc],
    figure_of_parts ofWhole ofPart ofExponent⟩

/-- **What is read as a number is one.** -/
theorem figure_of_number? (read : number? cs = some (x, rest)) : ∃ text, cs = text ++ rest ∧ Figure text x := by
  unfold number? at read
  split at read
  · obtain ⟨text, rfl, figure⟩ := figure_of_unsigned? read
    exact ⟨_, rfl, figure⟩
  · obtain ⟨text, rfl, figure⟩ := figure_of_unsigned? read
    exact ⟨_, rfl, figure⟩

/-! ## Writing -/

theorem digits_digitsOf : Digits (digitsOf n) :=
  ⟨Nat.toDigits_ne_nil, fun _ mem => Nat.isDigit_of_mem_toDigits (by decide) (by decide) mem⟩

theorem natOfDigits_digitsOf : natOfDigits (digitsOf n) = n :=
  Nat.ofDigitChars_ten_toDigits

theorem numeral_digitsOf : Numeral (digitsOf n) n := by
  have numeral : Numeral (digitsOf n) (natOfDigits (digitsOf n)) := digits_digitsOf.numeral
  rwa [natOfDigits_digitsOf] at numeral

/-- The digits of a number do not begin with zero, those of zero apart. -/
theorem head?_digitsOf (pos : n ≠ 0) : (digitsOf n).head? ≠ some '0' := by
  induction n using Nat.strongRecOn with
  | ind n ih =>
    rw [digitsOf, Nat.toDigits_eq_if (by decide)]
    split
    · rename_i small
      have apart : ∀ d < 10, d ≠ 0 → d.digitChar ≠ '0' := by decide
      simpa using apart n small pos
    · rename_i large
      rw [List.head?_append_of_ne_nil _ Nat.toDigits_ne_nil]
      exact ih (n / 10) (by omega) (by omega)

theorem whole_of_head? (digits : Digits ds) (first : ds.head? ≠ some '0') : Whole ds :=
  ⟨digits, fun zero => (first zero).elim⟩

theorem whole_zero : Whole ['0'] :=
  ⟨⟨by simp, by simp⟩, fun _ => rfl⟩

theorem whole_digitsOf_append (pos : n ≠ 0) (decimal : ∀ c ∈ ds, c.isDigit = true) :
    Whole (digitsOf n ++ ds) := by
  refine whole_of_head? (digits_append digits_digitsOf decimal) ?_
  rw [List.head?_append_of_ne_nil _ digits_digitsOf.nonempty]
  exact head?_digitsOf pos

theorem whole_digitsOf : Whole (digitsOf n) := by
  by_cases zero : n = 0
  · rw [zero]
    exact whole_zero
  · exact whole_of_head? digits_digitsOf (head?_digitsOf zero)

theorem isDigit_of_mem_replicate {k : Nat} : ∀ c ∈ List.replicate k '0', c.isDigit = true := by
  intro c mem
  rw [List.eq_of_mem_replicate mem]
  rfl

theorem natOfDigits_zeros_append {k : Nat} : natOfDigits (List.replicate k '0' ++ ds) = natOfDigits ds := by
  change Nat.ofDigitChars 10 (List.replicate k '0' ++ ds) 0 = Nat.ofDigitChars 10 ds 0
  rw [Nat.ofDigitChars_append, Nat.ofDigitChars_replicate_zero, Nat.mul_zero]

theorem natOfDigits_append_zeros {k : Nat} :
    natOfDigits (ds ++ List.replicate k '0') = natOfDigits ds * 10 ^ k := by
  change Nat.ofDigitChars 10 (ds ++ List.replicate k '0') 0 = Nat.ofDigitChars 10 ds 0 * 10 ^ k
  rw [Nat.ofDigitChars_append, Nat.ofDigitChars_replicate_zero, Nat.mul_comm]

theorem exponent_exponentText : Exponent ('e' :: exponentText e) e := by
  refine .marked (.inl rfl) ?_
  rw [exponentText]
  split
  · have power := Power.minus (numeral_digitsOf (n := e.natAbs))
    rwa [show -(e.natAbs : Int) = e by omega] at power
  · have power := Power.plus (numeral_digitsOf (n := e.natAbs))
    rwa [show (e.natAbs : Int) = e by omega] at power

/-- More zeros behind the digits, and one behind the point. -/
theorem figure_whole {k : Nat} (normal : n = 0 → k = 0) :
    Figure (Number.signText negative ++ (digitsOf n ++ List.replicate k '0' ++ ['.', '0']))
      (.ofDecimal negative ⟨n, k⟩) := by
  have ofWhole : Whole (digitsOf n ++ List.replicate k '0') := by
    by_cases zero : n = 0
    · rw [zero, normal zero]
      exact whole_zero
    · exact whole_digitsOf_append zero isDigit_of_mem_replicate
  have value : natOfDigits (digitsOf n ++ List.replicate k '0' ++ ['0']) = n * 10 ^ (k + 1) := by
    rw [List.append_assoc, ← List.replicate_succ', natOfDigits_append_zeros, natOfDigits_digitsOf]
  have figure := @figure_of_parts negative _ _ _ _ _ ofWhole (.point whole_zero.toDigits) .none
  have places : (0 : Int) - ['0'].length = k - (k + 1 : Nat) := by
    rw [List.length_singleton]
    omega
  rwa [List.append_nil, value, places, Number.ofDecimal_scale] at figure

/-- The digits of a number with the point between them. -/
theorem figure_split {i : Nat} (pos : n ≠ 0) (begun : 0 < i) (inside : i < (digitsOf n).length)
    (ofExponent : Exponent text e) :
    Figure (Number.signText negative ++ ((digitsOf n).take i ++ '.' :: (digitsOf n).drop i ++ text))
      (.ofDecimal negative ⟨n, e - ((digitsOf n).length - i : Nat)⟩) := by
  have apart : i ≠ 0 := Nat.ne_of_gt begun
  have ofWhole : Whole ((digitsOf n).take i) := by
    refine whole_of_head? ⟨?_, fun d mem => digits_digitsOf.decimal d (List.mem_of_mem_take mem)⟩ ?_
    · simp [apart, digits_digitsOf.nonempty]
    · rw [List.head?_take, if_neg apart]
      exact head?_digitsOf pos
  have ofPart : Digits ((digitsOf n).drop i) :=
    ⟨by simpa using inside, fun d mem => digits_digitsOf.decimal d (List.mem_of_mem_drop mem)⟩
  have figure := @figure_of_parts negative _ _ _ _ _ ofWhole (.point ofPart) ofExponent
  rwa [List.take_append_drop, natOfDigits_digitsOf, List.length_drop] at figure

/-- The digits of a number behind the point, and behind more zeros. -/
theorem figure_part {k : Nat} :
    Figure (Number.signText negative ++ (['0'] ++ '.' :: (List.replicate k '0' ++ digitsOf n)))
      (.ofDecimal negative ⟨n, -((k + (digitsOf n).length : Nat) : Int)⟩) := by
  have ofPart : Digits (List.replicate k '0' ++ digitsOf n) :=
    ⟨by simp [digits_digitsOf.nonempty],
      List.forall_mem_append.2 ⟨isDigit_of_mem_replicate, digits_digitsOf.decimal⟩⟩
  have value : natOfDigits (['0'] ++ (List.replicate k '0' ++ digitsOf n)) = n := by
    rw [← List.append_assoc, List.singleton_append, ← List.replicate_succ, natOfDigits_zeros_append,
      natOfDigits_digitsOf]
  have figure := @figure_of_parts negative _ _ _ _ _ whole_zero (.point ofPart) .none
  rwa [List.append_nil, value, List.length_append, List.length_replicate, Int.zero_sub] at figure

/-- The digits of a number with an exponent. -/
theorem figure_exponent (ofExponent : Exponent text e) :
    Figure (Number.signText negative ++ (digitsOf n ++ text)) (.ofDecimal negative ⟨n, e⟩) := by
  have figure := @figure_of_parts negative _ _ _ _ _ (whole_digitsOf (n := n)) .none ofExponent
  rwa [List.append_nil, natOfDigits_digitsOf, List.length_nil, Int.natCast_zero,
    Int.sub_zero] at figure

/-- The positional notation of a decimal, with one digit at least behind the point. -/
theorem figure_positional {d : Decimal} (normal : d.coefficient = 0 → d.exponent = 0) :
    Figure (Number.signText negative ++ (d.positional.1 ++ '.' :: someFraction d.positional.2))
      (.ofDecimal negative d) := by
  obtain ⟨n, e⟩ := d
  by_cases whole : 0 ≤ e
  · obtain ⟨k, rfl⟩ := Int.eq_ofNat_of_zero_le whole
    have parts : Decimal.positional ⟨n, k⟩ = (digitsOf n ++ List.replicate k '0', []) := by
      simp [Decimal.positional]
    rw [parts]
    exact figure_whole fun zero => Int.ofNat.inj (normal zero)
  · have pos : n ≠ 0 := fun zero => whole (Int.le_of_eq (normal zero).symm)
    obtain ⟨k, rfl⟩ : ∃ k : Nat, e = -k := ⟨e.natAbs, by omega⟩
    have places : (- -(k : Int)).toNat = k := by omega
    by_cases inside : k < (digitsOf n).length
    · have fewer : (digitsOf n).length - k < (digitsOf n).length := by omega
      have parts : Decimal.positional ⟨n, -k⟩ =
          ((digitsOf n).take ((digitsOf n).length - k), (digitsOf n).drop ((digitsOf n).length - k)) := by
        simp only [Decimal.positional, whole, places, inside, if_true, if_false]
      have figure := @figure_split negative n _ _ _ pos (Nat.sub_pos_of_lt inside) fewer .none
      rw [List.append_nil, Nat.sub_sub_self (Nat.le_of_lt inside), Int.zero_sub] at figure
      rwa [parts, someFraction, if_neg (by simpa using fewer)]
    · have parts : Decimal.positional ⟨n, -k⟩ =
          (['0'], List.replicate (k - (digitsOf n).length) '0' ++ digitsOf n) := by
        simp only [Decimal.positional, whole, places, inside, if_false]
      have figure := @figure_part negative n (k - (digitsOf n).length)
      rw [Nat.sub_add_cancel (Nat.le_of_not_lt inside)] at figure
      rwa [parts, someFraction, if_neg (by simp [digits_digitsOf.nonempty])]

/-- **The text of a decimal stands for it**, in whatever layout. -/
theorem figure_decimalText {layout : NumberLayout} {d : Decimal} (normal : d.coefficient = 0 → d.exponent = 0) :
    Figure (Number.signText negative ++ decimalText layout d) (.ofDecimal negative d) := by
  obtain ⟨n, e⟩ := d
  simp only [decimalText]
  split
  · exact figure_positional normal
  · by_cases single : (digitsOf n).length ≤ 1
    · have alone : (digitsOf n).length = 1 := Nat.le_antisymm single Decimal.length_digitsOf_pos
      have order : e + (1 : Nat) - 1 = e := by omega
      rw [if_pos single, List.take_of_length_le single, List.append_nil, alone, order]
      exact figure_exponent exponent_exponentText
    · have pos : n ≠ 0 := by
        rintro rfl
        exact single (by decide)
      have figure := @figure_split negative n _ _ _ pos Nat.one_pos (Nat.lt_of_not_le single)
        (@exponent_exponentText (e + (digitsOf n).length - 1))
      have order : e + (digitsOf n).length - 1 - ((digitsOf n).length - 1 : Nat) = e := by omega
      rw [order] at figure
      rwa [if_neg single]

/-- **The text of a finite number stands for it.** -/
theorem figure_shortest {a : Magnitude} {layout : NumberLayout} {tie : Tie} :
    Figure (Number.signText negative ++ decimalText layout (a.shortest tie)) (.finite negative a) := by
  have normal : (a.shortest tie).coefficient = 0 → (a.shortest tie).exponent = 0 := by
    intro zero
    rw [Magnitude.shortest_eq_of_coefficient zero]
  have figure := @figure_decimalText negative layout _ normal
  rwa [Magnitude.ofDecimal_shortest] at figure

end Formulary.Json
