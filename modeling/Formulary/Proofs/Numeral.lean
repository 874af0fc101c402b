import Mathlib.Data.List.Induction
import Mathlib.Data.Nat.Digits.Defs
import Formulary.Number.Decimal
import Formulary.Proofs.Text.Cutting

/-!
# Decimal numerals

Which number a run of digits stands for, by the places of the digits (`Numeral`). Reading digits comes to this
(`digits?_eq_some_iff`), and the text of a number is one of its numerals (`numeral_toString`).
-/

namespace Formulary.Decimal

/-- The digits, one or more, are those of the number, the last one that of the units. -/
structure Numeral (digits : List Char) (n : Nat) : Prop where
  nonempty : digits ≠ []
  decimal : ∀ d ∈ digits, d.isDigit = true
  value : Nat.ofDigits 10 (digits.reverse.map fun d => d.toNat - '0'.toNat) = n

variable {digits cs : List Char} {n : Nat}

theorem natOfDigits_eq_ofDigits :
    natOfDigits digits = Nat.ofDigits 10 (digits.reverse.map fun d => d.toNat - '0'.toNat) := by
  induction digits using List.reverseRecOn with
  | nil => rfl
  | append_singleton digits d ih =>
    rw [natOfDigits, List.foldl_append, List.foldl_cons, List.foldl_nil, ← natOfDigits, ih,
      List.reverse_append, List.reverse_singleton, List.singleton_append, List.map_cons, Nat.ofDigits_cons]
    exact Nat.add_comm _ _

theorem digits?_eq_some_iff : digits? cs = some n ↔ Numeral cs n := by
  constructor
  · intro read
    rw [digits?, Option.ite_none_right_eq_some, Bool.and_eq_true, List.all_eq_true] at read
    obtain ⟨⟨nonempty, decimal⟩, value⟩ := read
    rw [natOfDigits_eq_ofDigits] at value
    exact ⟨by simpa using nonempty, decimal, Option.some.inj value⟩
  · rintro ⟨nonempty, decimal, rfl⟩
    rw [digits?, natOfDigits_eq_ofDigits, if_pos]
    rw [Bool.and_eq_true, List.all_eq_true]
    exact ⟨by simpa using nonempty, decimal⟩

/-- **The text of a number is one of its numerals.** -/
theorem numeral_toString (n : Nat) : Numeral (toString n).toList n := by
  have written : (toString n).toList = Nat.toDigits 10 n := by
    rw [Nat.toString_eq_ofList_toDigits, String.toList_ofList]
  rw [written]
  refine ⟨Nat.toDigits_ne_nil, ?_, ?_⟩
  · intro d mem
    exact Nat.isDigit_of_mem_toDigits (by decide) (by decide) mem
  · rw [← natOfDigits_eq_ofDigits]
    exact Nat.ofDigitChars_ten_toDigits

theorem isBlank_of_isDigit {c : Char} (digit : c.isDigit = true) : Text.isBlank c = false := by
  obtain ⟨low, high⟩ := Char.isDigit_iff_toNat.1 digit
  have zero : '0'.toNat = 48 := rfl
  have nine : '9'.toNat = 57 := rfl
  simp [Text.isBlank]
  omega

namespace Numeral

/-- A character that is no digit is none of a numeral. -/
theorem not_mem {c : Char} (h : Numeral digits n) (other : c.isDigit = false) : c ∉ digits := by
  intro mem
  rw [h.decimal c mem] at other
  cases other

theorem tight (h : Numeral digits n) : Text.Tight digits :=
  Text.Tight.of_forall fun d mem => isBlank_of_isDigit (h.decimal d mem)

end Numeral

end Formulary.Decimal
