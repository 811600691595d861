/-
  RelatedFilter.Proofs.Decimal.Shortest

  The search for the shortest digits of a double that is not zero ends with at
  least one digit, and with nothing but digits.  A decimal in the rounding
  interval is not zero; where no grid of 17 digits has one, the digits are a
  quotient that is not zero because the power of ten that the search starts from
  lies below the value.
-/
import RelatedFilter.Decimal.Shortest
import Mathlib.Algebra.Order.Field.Power
import Mathlib.Data.List.TakeWhile
import Mathlib.Data.Rat.Cast.Order
import Mathlib.Tactic.Linarith
import Mathlib.Tactic.Positivity
import Mathlib.Tactic.NormNum

namespace RelatedFilter.Decimal

/-! ## Powers of two and of ten -/

/-- A power of ten at or below a power of two with the same sign. -/
theorem ten_pow_le_two_pow (b : Nat) : 10 ^ (3 * (b / 10)) ≤ 2 ^ b := by
  calc 10 ^ (3 * (b / 10)) = (10 ^ 3) ^ (b / 10) := by rw [Nat.pow_mul]
    _ ≤ (2 ^ 10) ^ (b / 10) := Nat.pow_le_pow_left (by norm_num) _
    _ = 2 ^ (10 * (b / 10)) := by rw [Nat.pow_mul]
    _ ≤ 2 ^ b := Nat.pow_le_pow_right (by norm_num) (Nat.mul_div_le b 10)

theorem two_pow_le_ten_pow (b : Nat) : 2 ^ b ≤ 10 ^ (4 * (b / 13) + 4) := by
  calc 2 ^ b ≤ 2 ^ (13 * (b / 13) + 13) := Nat.pow_le_pow_right (by norm_num) (by omega)
    _ = (2 ^ 13) ^ (b / 13 + 1) := by rw [← Nat.pow_mul]; congr 1
    _ ≤ (10 ^ 4) ^ (b / 13 + 1) := Nat.pow_le_pow_left (by norm_num) _
    _ = 10 ^ (4 * (b / 13) + 4) := by rw [← Nat.pow_mul]; congr 1

/-- For the exponents of doubles, the bits of a number give a power of ten that
    lies twenty decimal places below it. -/
theorem ten_zpow_le_two_zpow {bits : Int} (hlow : -2000 ≤ bits) (hhigh : bits ≤ 2000) :
    (10 : ℚ) ^ (Int.fdiv (bits * 1233) 4096 - 20) ≤ (2 : ℚ) ^ bits := by
  have hdiv : Int.fdiv (bits * 1233) 4096 = bits * 1233 / 4096 :=
    Int.fdiv_eq_ediv_of_nonneg _ (by norm_num)
  rw [hdiv]
  obtain ⟨b, rfl | rfl⟩ := bits.eq_nat_or_neg
  · have hten : ((10 ^ (3 * (b / 10)) : Nat) : ℚ) ≤ (2 ^ b : Nat) :=
      Nat.cast_le.mpr (ten_pow_le_two_pow b)
    push_cast at hten
    rw [zpow_natCast]
    refine le_trans ?_ hten
    rw [← zpow_natCast]
    exact zpow_le_zpow_right₀ (by norm_num) (by omega)
  · have htwo : ((2 ^ b : Nat) : ℚ) ≤ (10 ^ (4 * (b / 13) + 4) : Nat) :=
      Nat.cast_le.mpr (two_pow_le_ten_pow b)
    push_cast at htwo
    rw [zpow_neg, zpow_natCast]
    have hneg : (10 : ℚ) ^ (-((4 * (b / 13) + 4 : Nat) : Int)) ≤ ((2 : ℚ) ^ b)⁻¹ := by
      rw [zpow_neg, zpow_natCast]
      exact inv_anti₀ (by positivity) htwo
    refine le_trans ?_ hneg
    exact zpow_le_zpow_right₀ (by norm_num) (by omega)

namespace Interval

/-- The value is at least `10 ^ z`. -/
def AtLeast (i : Interval) (z : Int) : Prop :=
  (10 : ℚ) ^ z * i.den ≤ i.value

theorem AtLeast.mono {i : Interval} {y z : Int} (h : i.AtLeast z) (hyz : y ≤ z) : i.AtLeast y := by
  have hpow : (10 : ℚ) ^ y ≤ 10 ^ z := zpow_le_zpow_right₀ (by norm_num) hyz
  exact le_trans (mul_le_mul_of_nonneg_right hpow (Nat.cast_nonneg _)) h

/-- The comparison in naturals: of the two powers one is `10 ^ 0`. -/
theorem atLeast_iff (i : Interval) (z : Int) :
    i.AtLeast z ↔ i.den * 10 ^ z.toNat ≤ i.value * 10 ^ (-z).toNat := by
  have hpow : (10 : ℚ) ^ z * 10 ^ (-z).toNat = 10 ^ z.toNat := by
    rw [← zpow_natCast, ← zpow_natCast, ← zpow_add₀ (by norm_num)]
    congr 1
    omega
  have hpos : (0 : ℚ) < 10 ^ (-z).toNat := by positivity
  rw [AtLeast, ← mul_le_mul_iff_left₀ hpos, ← Nat.cast_le (α := ℚ)]
  push_cast
  rw [← hpow]
  constructor <;> intro h <;> linarith

/-- The binary logarithms of value and denominator give a power of ten below. -/
theorem atLeast_of_log2 {i : Interval} (hvalue : i.value ≠ 0)
    (hlow : -2000 ≤ (i.value.log2 : Int) - (i.den.log2 : Int) - 1)
    (hhigh : (i.value.log2 : Int) - (i.den.log2 : Int) - 1 ≤ 2000) :
    i.AtLeast (Int.fdiv (((i.value.log2 : Int) - (i.den.log2 : Int) - 1) * 1233) 4096 - 20) := by
  have hnum : ((2 ^ i.value.log2 : Nat) : ℚ) ≤ i.value :=
    Nat.cast_le.mpr (Nat.log2_self_le hvalue)
  have hden : (i.den : ℚ) ≤ ((2 ^ (i.den.log2 + 1) : Nat) : ℚ) :=
    Nat.cast_le.mpr Nat.lt_log2_self.le
  push_cast at hnum hden
  have hbits : (2 : ℚ) ^ ((i.value.log2 : Int) - (i.den.log2 : Int) - 1) * 2 ^ (i.den.log2 + 1)
      = 2 ^ i.value.log2 := by
    rw [← zpow_natCast, ← zpow_natCast, ← zpow_add₀ (by norm_num)]
    congr 1
    push_cast
    omega
  calc (10 : ℚ) ^ (Int.fdiv (((i.value.log2 : Int) - (i.den.log2 : Int) - 1) * 1233) 4096 - 20)
        * i.den
      ≤ 2 ^ ((i.value.log2 : Int) - (i.den.log2 : Int) - 1) * i.den :=
        mul_le_mul_of_nonneg_right (ten_zpow_le_two_zpow hlow hhigh) (Nat.cast_nonneg _)
    _ ≤ 2 ^ ((i.value.log2 : Int) - (i.den.log2 : Int) - 1) * 2 ^ (i.den.log2 + 1) :=
        mul_le_mul_of_nonneg_left hden (by positivity)
    _ = 2 ^ i.value.log2 := hbits
    _ ≤ i.value := hnum

/-! ## Digits that are found -/

/-- Zero lies in no rounding interval. -/
theorem ne_zero_of_contains {i : Interval} {d : Nat} {e : Int} (hlow : 0 < i.low)
    (h : i.contains d e = true) : d ≠ 0 := by
  rintro rfl
  have hunit : 0 < i.low * 10 ^ (-e).toNat := Nat.mul_pos hlow (Nat.pow_pos (by norm_num))
  simp only [contains, Nat.zero_mul, Nat.pow_eq] at h
  split at h
  · simp only [Bool.and_eq_true, decide_eq_true_eq] at h
    omega
  · simp at h

theorem contains_of_onGrid {i : Interval} {d : Nat} {e : Int} (h : i.onGrid e = some d) :
    i.contains d e = true := by
  simp only [onGrid] at h
  split_ifs at h <;> simp_all

/-- The search for the magnitude does not pass it by more than one place. -/
theorem atLeast_magnitudeFrom (i : Interval) (fuel : Nat) (p : Int) (h : i.AtLeast (p - 18)) :
    i.AtLeast (i.magnitudeFrom fuel p - 18) := by
  induction fuel generalizing p with
  | zero => exact h
  | succ fuel ih =>
    simp only [magnitudeFrom]
    split
    · exact h
    · rename_i hnot
      have hp : i.AtLeast p := (atLeast_iff i p).mpr (Nat.not_lt.mp hnot)
      exact ih (p + 1) (hp.mono (by omega))

/-- Every grid gives a decimal that is not zero, and so does the quotient behind
    the last one. -/
theorem firstGrid_ne_zero {i : Interval} {p : Int} (hlow : 0 < i.low)
    (hp : i.AtLeast (p - 18)) (hden : 0 < i.den) :
    ∀ fuel n : Nat, n + fuel = 18 → (i.firstGrid p fuel n).1 ≠ 0 := by
  intro fuel
  induction fuel with
  | zero =>
    intro n hn
    obtain rfl : n = 18 := by omega
    have hle := (atLeast_iff i (p - 18)).mp hp
    rw [show -(p - 18) = 18 - p by omega] at hle
    have hpos : 0 < i.den * 10 ^ (p - 18).toNat := Nat.mul_pos hden (Nat.pow_pos (by norm_num))
    exact (Nat.div_pos hle hpos).ne'
  | succ fuel ih =>
    intro n hn
    simp only [firstGrid]
    split
    · rename_i d hd
      exact ne_zero_of_contains hlow (contains_of_onGrid hd)
    · exact ih (n + 1) (by omega)

end Interval

/-! ## The rounding interval of a double -/

section
variable {x : Binary64}

theorem interval_low_pos (h : x.isZero = false) : 0 < (interval x).low := by
  have hm : 0 < x.significand := by
    simp only [Binary64.isZero, beq_eq_false_iff_ne] at h
    omega
  have hscale : 0 < 2 ^ (x.exponent - 2).toNat := Nat.two_pow_pos _
  simp only [interval]
  refine Nat.mul_pos ?_ hscale
  split <;> omega

theorem significand_lt : x.significand < 2 ^ 53 := by
  have hfraction : x.fraction < 2 ^ 52 := Nat.mod_lt _ (by norm_num)
  simp only [Binary64.significand, Nat.pow_eq]
  split <;> omega

theorem exponent_bounds : -1074 ≤ x.exponent ∧ x.exponent ≤ 972 := by
  have hbiased : x.biasedExponent < 2 ^ 11 := Nat.mod_lt _ (by norm_num)
  unfold Binary64.exponent
  split <;> omega

theorem log2_value_le : (interval x).value.log2 ≤ 1025 := by
  have hm : 4 * x.significand < 2 ^ 55 := by
    have := significand_lt (x := x)
    omega
  have hlt : (interval x).value < 2 ^ (55 + (x.exponent - 2).toNat) := by
    rw [Nat.pow_add]
    exact Nat.mul_lt_mul_of_pos_right hm (Nat.two_pow_pos _)
  by_cases hzero : (interval x).value = 0
  · rw [hzero]
    decide
  · have hlog := (Nat.log2_lt hzero).mpr hlt
    have := exponent_bounds (x := x)
    omega

theorem log2_den_le : (interval x).den.log2 ≤ 1076 := by
  have := exponent_bounds (x := x)
  simp only [interval, Nat.pow_eq, Nat.log2_two_pow]
  omega

/-- The search for the magnitude starts below it. -/
theorem atLeast_magnitude (h : x.isZero = false) :
    (interval x).AtLeast ((interval x).magnitude - 18) := by
  have hlow : (interval x).value ≠ 0 := by
    have hm : x.significand ≠ 0 := by simpa [Binary64.isZero] using h
    have hscale : 2 ^ (x.exponent - 2).toNat ≠ 0 := (Nat.two_pow_pos _).ne'
    simp [interval, hm]
  have hvalue := log2_value_le (x := x)
  have hden := log2_den_le (x := x)
  refine Interval.atLeast_magnitudeFrom _ 40 _ ?_
  rw [sub_sub]
  exact Interval.atLeast_of_log2 hlow (by omega) (by omega)

/-- The digits of a natural that is not zero, without trailing zeros, are not
    empty. -/
theorem significantDigits_ne_nil {d : Nat} (h : d ≠ 0) : significantDigits d ≠ [] := by
  intro hnil
  simp only [significantDigits, List.reverse_eq_nil_iff, List.dropWhile_eq_nil_iff,
    List.mem_reverse, beq_iff_eq, Nat.toString_eq_repr, Nat.toList_repr] at hnil
  have hzeros : Nat.toDigits 10 d = List.replicate (Nat.toDigits 10 d).length '0' :=
    List.eq_replicate_iff.mpr ⟨rfl, hnil⟩
  have hvalue := Nat.ofDigitChars_ten_toDigits (n := d)
  rw [hzeros, Nat.ofDigitChars_replicate_zero, Nat.mul_zero] at hvalue
  exact h hvalue.symm

theorem significantDigits_isDigit {d : Nat} {c : Char} (h : c ∈ significantDigits d) :
    c.isDigit = true := by
  simp only [significantDigits, List.mem_reverse] at h
  have hc := List.mem_reverse.mp ((List.dropWhile_sublist _).mem h)
  rw [Nat.toString_eq_repr, Nat.toList_repr] at hc
  exact Nat.isDigit_of_mem_toDigits (by norm_num) (by norm_num) hc

end

/-- A double that is not zero has shortest digits. -/
theorem shortest_digits_ne_nil {x : Binary64} (h : x.isZero = false) :
    (shortest x).digits ≠ [] := by
  have hden : 0 < (interval x).den := Nat.two_pow_pos _
  exact significantDigits_ne_nil
    (Interval.firstGrid_ne_zero (interval_low_pos h) (atLeast_magnitude h) hden 17 1 rfl)

theorem shortest_digits_isDigit {x : Binary64} {c : Char} (h : c ∈ (shortest x).digits) :
    c.isDigit = true :=
  significantDigits_isDigit h

end RelatedFilter.Decimal
