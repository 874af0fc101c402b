import Formulary.Number.Shortest
import Formulary.Proofs.Number
import Formulary.Proofs.Numeral

/-!
# The shortest decimal reads back

Rounding to the nearest number is about a quotient, however it is expanded (`Number.ofUnits_congr`), and finds
a number that is one exactly (`Number.ofUnits_units`). So a decimal may be written with more zeros
(`Number.ofDecimal_scale`), the exact expansion of a magnitude reads back, and with it the shortest one, whose
search ends there (`Number.ofDecimal_shortest`).
-/

namespace Formulary

-- Powers are the built-in ones, whatever other instances are in scope.
attribute [local instance (high)] instPowNat

/-! ## Digits -/

namespace Decimal

variable {n k : Nat}

/-- The digits of a number times a power of ten. -/
theorem digitsOf_mul_pow (pos : 0 < n) : digitsOf (n * 10 ^ k) = digitsOf n ++ List.replicate k '0' := by
  induction k with
  | zero => rw [Nat.pow_zero, Nat.mul_one, List.replicate_zero, List.append_nil]
  | succ k ih =>
    have pos' : 0 < n * 10 ^ k := Nat.mul_pos pos (Nat.pow_pos (by decide))
    have next : n * 10 ^ (k + 1) = 10 * (n * 10 ^ k) + 0 := by
      rw [Nat.pow_succ, ← Nat.mul_assoc, Nat.mul_comm, Nat.add_zero]
    rw [next, digitsOf, ← Nat.toDigits_append_toDigits (by decide) pos' (by decide), ← digitsOf, ih,
      List.append_assoc, List.replicate_succ']
    rfl

theorem length_digitsOf_le_iff (pos : 0 < k) : (digitsOf n).length ≤ k ↔ n < 10 ^ k :=
  Nat.length_toDigits_le_iff (by decide) pos

theorem length_digitsOf_pos : 0 < (digitsOf n).length :=
  Nat.length_toDigits_pos

end Decimal

namespace Number

variable {negative : Bool} {num num' den den' k : Nat} {a : Magnitude} {d : Decimal}

/-! ## Rounding -/

/-- What is a multiple of the divisor needs no rounding. -/
theorem roundQuotient_mul (pos : 0 < den) {q : Nat} : roundQuotient (den * q) den = q := by
  have apart : den ≠ 0 := Nat.ne_of_gt pos
  simp [roundQuotient, Nat.mul_div_cancel_left q pos, apart.symm]

/-- Rounding is about the quotient. -/
theorem roundQuotient_scale (pos : 0 < k) : roundQuotient (k * num) (k * den) = roundQuotient num den := by
  have double : 2 * (k * (num % den)) = k * (2 * (num % den)) := by rw [Nat.mul_left_comm]
  have less : k * den < k * (2 * (num % den)) ↔ den < 2 * (num % den) := Nat.mul_lt_mul_left pos
  have tie : k * (2 * (num % den)) = k * den ↔ 2 * (num % den) = den := Nat.mul_right_inj (Nat.ne_of_gt pos)
  simp [roundQuotient, Nat.mul_div_mul_left num den pos, Nat.mul_mod_mul_left, double, less, tie]

theorem ofUnits_scale (pos : 0 < k) : ofUnits negative (k * num) (k * den) = ofUnits negative num den := by
  simp only [ofUnits, Nat.mul_div_mul_left num den pos, Nat.mul_assoc, roundQuotient_scale pos]

/-- **Equal quotients are rounded to the same number.** -/
theorem ofUnits_congr (pos : 0 < den) (pos' : 0 < den') (same : num * den' = num' * den) :
    ofUnits negative num den = ofUnits negative num' den' := by
  rw [← ofUnits_scale pos', ← @ofUnits_scale negative num' den' den pos, Nat.mul_comm den' num, same,
    Nat.mul_comm num' den, Nat.mul_comm den' den]

/-- A magnitude has as many binary digits as its digits and its shift say. -/
theorem bitLength_units : bitLength a.units - 53 = a.shift := by
  obtain ⟨digits, shift, small, -, canonical⟩ := a
  rcases canonical with rfl | large
  · have units : Magnitude.units ⟨digits, 0, small, by decide, .inl rfl⟩ = digits := Nat.mul_one digits
    rw [units, bitLength]
    split
    · rfl
    · rename_i pos
      have short := (Nat.log2_lt pos).2 small
      exact Nat.sub_eq_zero_of_le short
  · have pos : digits ≠ 0 := by omega
    have pos' : digits * 2 ^ shift ≠ 0 := Nat.mul_ne_zero pos (Nat.ne_of_gt (Nat.pow_pos (by decide)))
    have least : 52 + shift ≤ (digits * 2 ^ shift).log2 := by
      rw [Nat.le_log2 pos', Nat.pow_add]
      exact Nat.mul_le_mul_right _ large
    have greatest : (digits * 2 ^ shift).log2 < 53 + shift := by
      rw [Nat.log2_lt pos', Nat.pow_add]
      exact Nat.mul_lt_mul_of_pos_right small (Nat.pow_pos (by decide))
    simp only [bitLength, Magnitude.units, pos', if_false]
    omega

/-- **A number is the nearest to itself.** -/
theorem ofUnits_units (pos : 0 < den) : ofUnits negative (den * a.units) den = .finite negative a := by
  have whole : den * a.units / den = a.units := Nat.mul_div_cancel_left _ pos
  have split : den * a.units = den * 2 ^ a.shift * a.digits := by
    rw [Magnitude.units, Nat.mul_assoc, Nat.mul_comm a.digits]
  have digits : roundQuotient (den * a.units) (den * 2 ^ a.shift) = a.digits := by
    rw [split]
    exact roundQuotient_mul (Nat.mul_pos pos (Nat.pow_pos (by decide)))
  have inside : a.digits ≠ 2 ^ 53 := Nat.ne_of_lt a.digits_lt
  have parts : Magnitude.ofParts? a.digits a.shift = some a :=
    dif_pos ⟨a.digits_lt, a.shift_le, a.canonical⟩
  simp only [ofUnits, whole, bitLength_units, digits, inside, if_false, parts]

theorem ofUnits_sign (h : ofUnits false num den = .finite false a) :
    ofUnits negative num den = .finite negative a := by
  simp only [ofUnits] at h ⊢
  split at h
  · cases h
    rfl
  · cases h

/-! ## Decimals -/

/-- The order of magnitude of a decimal. -/
def order (d : Decimal) : Int :=
  (Decimal.digitsOf d.coefficient).length + d.exponent

theorem ofDecimal_zero {e : Int} : ofDecimal negative ⟨0, e⟩ = .finite negative .zero :=
  if_pos rfl

theorem ofDecimal_of_large (nonzero : d.coefficient ≠ 0) (large : 310 < order d) :
    ofDecimal negative d = .infinity negative := by
  rw [ofDecimal, if_neg nonzero]
  exact if_pos large

theorem ofDecimal_of_small (nonzero : d.coefficient ≠ 0) (small : order d < -325) :
    ofDecimal negative d = .finite negative .zero := by
  have few : ¬ 310 < order d := by omega
  rw [ofDecimal, if_neg nonzero]
  exact (if_neg few).trans (if_pos small)

/-- A decimal of an order within the range of the format is rounded. -/
theorem ofDecimal_of_order (nonzero : d.coefficient ≠ 0) (high : ¬ 310 < order d) (low : ¬ order d < -325) :
    ofDecimal negative d =
      ofUnits negative (d.coefficient * 10 ^ d.exponent.toNat * unit) (10 ^ (-d.exponent).toNat) := by
  rw [ofDecimal, if_neg nonzero]
  refine (if_neg high).trans ((if_neg low).trans ?_)
  change (if 0 ≤ d.exponent then ofUnits negative (d.coefficient * 10 ^ d.exponent.toNat * unit) 1
    else ofUnits negative (d.coefficient * unit) (10 ^ (-d.exponent).toNat)) = _
  by_cases whole : 0 ≤ d.exponent
  · have places : (-d.exponent).toNat = 0 := by omega
    rw [if_pos whole, places, Nat.pow_zero]
  · have places : d.exponent.toNat = 0 := by omega
    rw [if_neg whole, places, Nat.pow_zero, Nat.mul_one]

theorem ofDecimal_sign (h : ofDecimal false d = .finite false a) :
    ofDecimal negative d = .finite negative a := by
  by_cases zero : d.coefficient = 0
  · rw [ofDecimal, if_pos zero] at h ⊢
    cases h
    rfl
  · by_cases large : 310 < order d
    · rw [ofDecimal_of_large zero large] at h
      cases h
    · by_cases small : order d < -325
      · rw [ofDecimal_of_small zero small] at h ⊢
        cases h
        rfl
      · rw [ofDecimal_of_order zero large small] at h ⊢
        exact ofUnits_sign h

/-- **More zeros do not change a decimal.** -/
theorem ofDecimal_scale {c : Nat} {e : Int} :
    ofDecimal negative ⟨c * 10 ^ k, e - k⟩ = ofDecimal negative ⟨c, e⟩ := by
  by_cases zero : c = 0
  · rw [zero, Nat.zero_mul, ofDecimal_zero, ofDecimal_zero]
  · have zero' : c * 10 ^ k ≠ 0 := Nat.mul_ne_zero zero (Nat.ne_of_gt (Nat.pow_pos (by decide)))
    have same : order ⟨c * 10 ^ k, e - k⟩ = order ⟨c, e⟩ := by
      simp only [order, Decimal.digitsOf_mul_pow (Nat.pos_of_ne_zero zero), List.length_append,
        List.length_replicate]
      omega
    by_cases large : 310 < order ⟨c, e⟩
    · rw [ofDecimal_of_large zero large, ofDecimal_of_large zero' (same ▸ large)]
    · by_cases small : order ⟨c, e⟩ < -325
      · rw [ofDecimal_of_small zero small, ofDecimal_of_small zero' (same ▸ small)]
      · rw [ofDecimal_of_order zero large small, ofDecimal_of_order zero' (same ▸ large) (same ▸ small)]
        refine ofUnits_congr (Nat.pow_pos (by decide)) (Nat.pow_pos (by decide)) ?_
        -- both sides are the coefficient times the same power of ten
        generalize unit = u
        have powers : k + (e - k).toNat + (-e).toNat = e.toNat + (-(e - k)).toNat := by omega
        calc c * 10 ^ k * 10 ^ (e - k).toNat * u * 10 ^ (-e).toNat
            = c * (10 ^ k * 10 ^ (e - k).toNat * 10 ^ (-e).toNat) * u := by ac_rfl
          _ = c * (10 ^ e.toNat * 10 ^ (-(e - k)).toNat) * u := by
            rw [← Nat.pow_add, ← Nat.pow_add, powers, Nat.pow_add]
          _ = c * 10 ^ e.toNat * u * 10 ^ (-(e - k)).toNat := by ac_rfl

end Number

/-! ## The shortest decimal -/

namespace Magnitude

variable {negative : Bool} {a : Magnitude} {tie : Tie} {d : Decimal}

theorem eq_zero_iff : a = zero ↔ a.digits = 0 := by
  constructor
  · rintro rfl
    rfl
  · obtain ⟨digits, shift, small, bounded, canonical⟩ := a
    rintro rfl
    have unshifted : shift = 0 := canonical.resolve_right (by decide)
    subst unshifted
    rfl

theorem exact_of_le (whole : 1074 ≤ a.shift) : a.exact = ⟨a.digits * 2 ^ (a.shift - 1074), 0⟩ :=
  if_pos whole

theorem exact_of_lt (part : ¬ 1074 ≤ a.shift) :
    a.exact = ⟨a.digits * 5 ^ (1074 - a.shift), -((1074 - a.shift : Nat) : Int)⟩ :=
  if_neg part

theorem pow_mul_unit {m n : Nat} (split : m + 1074 = n) : 2 ^ m * Number.unit = 2 ^ n := by
  rw [← split, Nat.pow_add]
  rfl

/-- The exact expansion is as great as the magnitude. -/
theorem exact_eq : a.exact.coefficient * 10 ^ a.exact.exponent.toNat * Number.unit =
    10 ^ (-a.exact.exponent).toNat * a.units := by
  by_cases whole : 1074 ≤ a.shift
  · rw [exact_of_le whole]
    change a.digits * 2 ^ (a.shift - 1074) * 1 * Number.unit = 1 * (a.digits * 2 ^ a.shift)
    rw [Nat.mul_one, Nat.one_mul, Nat.mul_assoc, pow_mul_unit (Nat.sub_add_cancel whole)]
  · obtain ⟨k, split⟩ := Nat.exists_eq_add_of_le (Nat.le_of_not_le whole)
    have places : 1074 - a.shift = k := by omega
    have ten : 10 ^ k = 5 ^ k * 2 ^ k := by rw [← Nat.mul_pow]
    have unit : Number.unit = 2 ^ k * 2 ^ a.shift := by
      rw [← Nat.pow_add, Nat.add_comm, ← split]
      rfl
    rw [exact_of_lt whole, places]
    simp only [Int.neg_neg, Int.toNat_natCast, Int.toNat_neg_natCast, Nat.pow_zero, Nat.mul_one]
    rw [unit, ten, units]
    ac_rfl

/-- A number of so many places after the point is not of a lower order than the least magnitude. -/
theorem lt_length_digitsOf {n k : Nat} (pos : 0 < n) (few : k ≤ 1074) :
    k < (Decimal.digitsOf (n * 5 ^ k)).length + 326 := by
  obtain ⟨t, power⟩ : ∃ t, t = 10 ^ 326 := ⟨_, rfl⟩
  have less : 2 ^ k < t := by
    rw [power]
    calc 2 ^ k
        ≤ 2 ^ 1074 := Nat.pow_le_pow_right (by decide) few
      _ < 10 ^ 326 := by decide +kernel
  apply Nat.lt_of_not_le
  intro short
  obtain ⟨m, split⟩ := Nat.exists_eq_add_of_le' (Nat.le_trans (Nat.le_add_left 326 _) short)
  have positive : 0 < (Decimal.digitsOf (n * 5 ^ k)).length := Decimal.length_digitsOf_pos
  have below : n * 5 ^ k < 10 ^ m := by
    rw [← Decimal.length_digitsOf_le_iff (by omega)]
    omega
  have beyond : 5 ^ k * t < 5 ^ k * 2 ^ k := by
    calc 5 ^ k * t
        ≤ n * 5 ^ k * t := Nat.mul_le_mul_right t (Nat.le_mul_of_pos_left _ pos)
      _ < 10 ^ m * t := Nat.mul_lt_mul_of_pos_right below (Nat.lt_of_le_of_lt (Nat.zero_le _) less)
      _ = 5 ^ k * 2 ^ k := by rw [power, ← Nat.pow_add, ← split, ← Nat.mul_pow]
  exact Nat.lt_asymm less (Nat.lt_of_mul_lt_mul_left beyond)

/-- Its order is within the range of the format. -/
theorem order_exact (nonzero : a.digits ≠ 0) :
    ¬ 310 < Number.order a.exact ∧ ¬ Number.order a.exact < -325 := by
  have small := a.digits_lt
  have bounded := a.shift_le
  by_cases whole : 1074 ≤ a.shift
  · rw [exact_of_le whole]
    have short : (Decimal.digitsOf (a.digits * 2 ^ (a.shift - 1074))).length ≤ 310 := by
      rw [Decimal.length_digitsOf_le_iff (by decide)]
      calc a.digits * 2 ^ (a.shift - 1074)
          ≤ 2 ^ 53 * 2 ^ 971 :=
            Nat.mul_le_mul (Nat.le_of_lt small) (Nat.pow_le_pow_right (by decide) (by omega))
        _ < 10 ^ 310 := by decide +kernel
    unfold Number.order
    constructor <;> dsimp only <;> omega
  · generalize places : 1074 - a.shift = k
    have few : k ≤ 1074 := by omega
    have short : (Decimal.digitsOf (a.digits * 5 ^ k)).length ≤ 16 + k := by
      rw [Decimal.length_digitsOf_le_iff (by omega), Nat.pow_add]
      calc a.digits * 5 ^ k
          < 2 ^ 53 * 5 ^ k := Nat.mul_lt_mul_of_pos_right small (Nat.pow_pos (by decide))
        _ ≤ 10 ^ 16 * 10 ^ k := Nat.mul_le_mul (by decide) (Nat.pow_le_pow_left (by decide) k)
    have long := lt_length_digitsOf (Nat.pos_of_ne_zero nonzero) few
    rw [exact_of_lt whole, places]
    unfold Number.order
    constructor <;> dsimp only <;> omega

/-- **The exact expansion reads back.** -/
theorem ofDecimal_exact : Number.ofDecimal negative a.exact = .finite negative a := by
  by_cases zero : a.digits = 0
  · have vanishes : a.exact.coefficient = 0 := by
      unfold exact
      split <;> simp [zero]
    rw [Number.ofDecimal, if_pos vanishes, eq_zero_iff.2 zero]
  · have nonzero : a.exact.coefficient ≠ 0 := by
      unfold exact
      split
      · exact Nat.mul_ne_zero zero (Nat.ne_of_gt (Nat.pow_pos (by decide)))
      · exact Nat.mul_ne_zero zero (Nat.ne_of_gt (Nat.pow_pos (by decide)))
    obtain ⟨high, low⟩ := order_exact zero
    rw [Number.ofDecimal_of_order nonzero high low, exact_eq]
    exact Number.ofUnits_units (Nat.pow_pos (by decide))

theorem readsFrom_iff : a.readsFrom d = true ↔ Number.ofDecimal false d = .finite false a :=
  beq_iff_eq

theorem readsFrom_shortestFrom (cut : Nat) : a.readsFrom (a.shortestFrom tie cut) = true := by
  induction cut with
  | zero => exact readsFrom_iff.2 ofDecimal_exact
  | succ cut ih =>
    simp only [shortestFrom]
    split
    · split
      · rename_i both
        exact (Bool.and_eq_true_iff.1 both).1
      · assumption
    · split
      · assumption
      · exact ih

/-- **The shortest decimal reads back.** -/
theorem ofDecimal_shortest : Number.ofDecimal negative (a.shortest tie) = .finite negative a := by
  unfold shortest
  split
  · rename_i zero
    rw [eq_zero_iff.2 zero]
    exact Number.ofDecimal_zero
  · exact Number.ofDecimal_sign (readsFrom_iff.1 (readsFrom_shortestFrom _))

/-- It is zero in one way only. -/
theorem shortest_eq_of_coefficient (zero : (a.shortest tie).coefficient = 0) : a.shortest tie = ⟨0, 0⟩ := by
  have back : Number.ofDecimal false (a.shortest tie) = .finite false a := ofDecimal_shortest
  rw [Number.ofDecimal, if_pos zero] at back
  cases back
  rfl

end Magnitude

end Formulary
