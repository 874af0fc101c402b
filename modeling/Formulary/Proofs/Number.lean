import Formulary.Number.Basic

/-!
# The order of numbers, and the integers among them

`Number.atLeast` compares the positions of two numbers. Not-a-number alone has none, and is at least nothing
and below nothing; of the other numbers each is at least itself. An integer stands at a multiple of `unit`,
and `Number.toInt?` finds it there (`toInt?_eq_some_iff`).
-/

namespace Formulary.Number

-- Powers are the built-in ones, whatever other instances are in scope.
attribute [local instance (high)] instPowNat

variable {a b c : Number}

/-- Only not-a-number has no position. -/
theorem position_eq_none_iff : a.position = none ↔ a = .nan := by
  cases a <;> simp [position]

theorem atLeast_iff :
    a.atLeast b = true ↔ ∃ x y, a.position = some x ∧ b.position = some y ∧ y ≤ x := by
  unfold atLeast
  cases a.position <;> cases b.position <;> simp

theorem exists_position (real : a ≠ .nan) : ∃ x, a.position = some x :=
  Option.ne_none_iff_exists'.1 (mt position_eq_none_iff.1 real)

theorem ne_nan_of_atLeast (h : a.atLeast b = true) : a ≠ .nan ∧ b ≠ .nan := by
  obtain ⟨x, y, ofA, ofB, -⟩ := atLeast_iff.1 h
  constructor
  · rintro rfl
    cases ofA
  · rintro rfl
    cases ofB

theorem atLeast_refl (real : a ≠ .nan) : a.atLeast a = true := by
  obtain ⟨x, stands⟩ := exists_position real
  exact atLeast_iff.2 ⟨x, x, stands, stands, Int.le_refl x⟩

theorem atLeast_trans (first : a.atLeast b = true) (second : b.atLeast c = true) : a.atLeast c = true := by
  obtain ⟨x, y, ofA, ofB, below⟩ := atLeast_iff.1 first
  obtain ⟨y', z, ofB', ofC, below'⟩ := atLeast_iff.1 second
  have same : y = y' := Option.some.inj (ofB.symm.trans ofB')
  exact atLeast_iff.2 ⟨x, z, ofA, ofC, by omega⟩

/-! ## Integers -/

/-- Where the number one stands. -/
def unit : Nat := 2 ^ (1074 : Nat)

theorem unit_pos : 0 < unit := by
  unfold unit
  apply Nat.pow_pos
  decide

theorem signed_mul (negative : Bool) (n m : Nat) : signed negative (n * m) = signed negative n * m := by
  cases negative with
  | false => rfl
  | true =>
    change -((n * m : Nat) : Int) = -(n : Int) * m
    rw [Int.natCast_mul, Int.neg_mul]

theorem natAbs_signed (negative : Bool) (n : Nat) : (signed negative n).natAbs = n := by
  cases negative <;> simp [signed]

/-- **A number is read as an integer exactly if it is finite and stands where the integer does.** -/
theorem toInt?_eq_some_iff {k : Int} :
    a.toInt? = some k ↔ a.isFinite = true ∧ a.position = some (k * unit) := by
  cases a with
  | nan => exact iff_of_false nofun nofun
  | infinity negative => exact iff_of_false nofun nofun
  | finite negative magnitude =>
    have pos := unit_pos
    simp only [toInt?, isFinite, position, true_and, Option.some.injEq]
    change (if magnitude.units % unit = 0 then some (signed negative (magnitude.units / unit)) else none) =
      some k ↔ _
    generalize magnitude.units = units
    constructor
    · intro read
      split at read
      · rename_i whole
        obtain rfl := Option.some.inj read
        rw [← signed_mul, Nat.div_mul_cancel (Nat.dvd_of_mod_eq_zero whole)]
      · cases read
    · intro stands
      have size : units = k.natAbs * unit := by
        rw [← natAbs_signed negative units, stands, Int.natAbs_mul, Int.natAbs_natCast]
      have back : signed negative k.natAbs * unit = k * unit := by rw [← signed_mul, ← size, stands]
      rw [size, Nat.mul_mod_left, if_pos rfl, Nat.mul_div_cancel _ pos]
      exact congrArg some (Int.eq_of_mul_eq_mul_right (by omega) back)

end Formulary.Number
