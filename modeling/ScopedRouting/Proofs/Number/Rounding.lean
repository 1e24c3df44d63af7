import Mathlib.Algebra.Order.Group.Nat
import Mathlib.Tactic.Positivity
import Mathlib.Tactic.Ring
import ScopedRouting.Number.Shortest

/-!
# Rounding decimals

Rounding a quotient looks at nothing but its value, and a finite number is what it is rounded to
itself. A decimal is therefore rounded in the same way wherever its zeros are counted, among its
digits or in its exponent. The two shortcuts for exponents out of range round to what the quotient
would be rounded to.
-/
namespace ScopedRouting.Binary64

theorem roundQuotient_mul {k : Nat} (positive : 0 < k) (num den : Nat) :
    roundQuotient (num * k) (den * k) = roundQuotient num den := by
  have less : den * k < 2 * (num % den * k) ↔ den < 2 * (num % den) := by
    rw [← Nat.mul_assoc, Nat.mul_lt_mul_right positive]
  have equal : 2 * (num % den * k) = den * k ↔ 2 * (num % den) = den := by
    rw [← Nat.mul_assoc, Nat.mul_left_inj (Nat.ne_of_gt positive)]
  simp only [roundQuotient, Nat.mul_div_mul_right num den positive, Nat.mul_mod_mul_right, less,
    equal]

theorem ofQuotient_mul {k : Nat} (positive : 0 < k) (negative : Bool) (num den : Nat) :
    ofQuotient negative (num * k) (den * k) = ofQuotient negative num den := by
  have scale : scaleOf (num * k) (den * k) = scaleOf num den := by
    rw [scaleOf, scaleOf, Nat.mul_div_mul_right num den positive]
  have rounded (unit : Nat) :
      roundQuotient (num * k) (den * k * unit) = roundQuotient num (den * unit) := by
    rw [Nat.mul_right_comm, roundQuotient_mul positive]
  simp only [ofQuotient, scale, rounded]

/-- Quotients of one value are rounded alike. -/
theorem ofQuotient_congr {num den num' den' : Nat} (positive : 0 < den) (positive' : 0 < den')
    (same : num * den' = num' * den) (negative : Bool) :
    ofQuotient negative num den = ofQuotient negative num' den' := by
  rw [← ofQuotient_mul positive' negative num den, ← ofQuotient_mul positive negative num' den',
    same, Nat.mul_comm den den']

theorem ofScaled_finite (x : FiniteNumber) :
    ofScaled x.negative x.significand x.scale = .finite x := by
  simp only [ofScaled, dif_pos x.canonical]

theorem scaleOf_magnitude (x : FiniteNumber) : scaleOf x.magnitude 1 = x.scale := by
  obtain ⟨below, _, denormal | above⟩ := x.canonical
  · have small : x.magnitude < 2 ^ 53 := by simpa [FiniteNumber.magnitude, denormal] using below
    by_cases zero : x.magnitude = 0
    · simp [scaleOf, zero, denormal]
    · have digits : x.magnitude.log2 < 53 := (Nat.log2_lt zero).mpr small
      simp only [scaleOf, Nat.div_one, denormal]
      omega
  · rw [Nat.pow_eq] at below above
    have positive : 0 < 2 ^ x.scale := Nat.two_pow_pos x.scale
    have lower : 2 ^ (52 + x.scale) ≤ x.magnitude := by
      rw [FiniteNumber.magnitude, Nat.pow_eq, Nat.pow_add]
      exact Nat.mul_le_mul_right _ above
    have upper : x.magnitude < 2 ^ (52 + x.scale + 1) := by
      rw [FiniteNumber.magnitude, Nat.pow_eq, Nat.add_right_comm, Nat.pow_add]
      exact (Nat.mul_lt_mul_right positive).mpr below
    have nonzero : x.magnitude ≠ 0 := by
      have := Nat.two_pow_pos (52 + x.scale)
      omega
    have digits : x.magnitude.log2 = 52 + x.scale := (Nat.log2_eq_iff nonzero).mpr ⟨lower, upper⟩
    simp only [scaleOf, Nat.div_one, digits]
    omega

/-- A finite number is rounded to itself. -/
theorem ofQuotient_magnitude (x : FiniteNumber) :
    ofQuotient x.negative x.magnitude 1 = .finite x := by
  have positive : 0 < Nat.pow 2 x.scale := Nat.two_pow_pos x.scale
  have rounded : roundQuotient x.magnitude (1 * Nat.pow 2 x.scale) = x.significand := by
    simp only [roundQuotient, FiniteNumber.magnitude, Nat.one_mul, Nat.mul_mod_left,
      Nat.mul_div_cancel _ positive]
    rw [if_neg (by omega)]
  simp only [ofQuotient, scaleOf_magnitude, rounded, ofScaled_finite,
    if_neg (Nat.ne_of_lt x.canonical.1)]

theorem ofScaled_zero (negative : Bool) : ofScaled negative 0 0 = zero negative :=
  rfl

theorem ofScaled_of_large (negative : Bool) (significand : Nat) {scale : Nat}
    (large : 2045 < scale) : ofScaled negative significand scale = .infinite negative := by
  rw [ofScaled, dif_neg]
  omega

/-- Less than half a unit is rounded to zero. -/
theorem ofQuotient_of_small {num den : Nat} (small : 2 * num < den) (negative : Bool) :
    ofQuotient negative num den = zero negative := by
  have nothing : num / den = 0 := Nat.div_eq_of_lt (by omega)
  have rest : num % den = num := Nat.mod_eq_of_lt (by omega)
  have scale : scaleOf num den = 0 := by simp [scaleOf, nothing]
  have rounded : roundQuotient num den = 0 := by
    simp only [roundQuotient, nothing, rest]
    rw [if_neg (by omega)]
  have unit : den * Nat.pow 2 0 = den := Nat.mul_one den
  simp only [ofQuotient, scale, unit, rounded, ofScaled_zero]
  rfl

/-- What has more binary digits than the largest finite number is rounded to infinity. -/
theorem ofQuotient_of_large {num den bits : Nat} (beyond : 2097 < bits)
    (large : 2 ^ bits ≤ num / den) (negative : Bool) :
    ofQuotient negative num den = .infinite negative := by
  have positive : 0 < num / den := Nat.lt_of_lt_of_le (Nat.two_pow_pos _) large
  have digits : bits ≤ (num / den).log2 := (Nat.le_log2 (Nat.ne_of_gt positive)).mpr large
  have scale : 2045 < scaleOf num den := by
    rw [scaleOf]
    omega
  simp only [ofQuotient, ofScaled_of_large negative _ scale,
    ofScaled_of_large negative _ (Nat.lt_succ_of_lt scale), ite_self]

theorem two_pow_le_ten_pow {bits places : Nat} (few : bits ≤ 3 * places) :
    2 ^ bits ≤ 10 ^ places :=
  calc 2 ^ bits ≤ 2 ^ (3 * places) := Nat.pow_le_pow_right (by decide) few
    _ = 8 ^ places := by rw [Nat.pow_mul]
    _ ≤ 10 ^ places := Nat.pow_le_pow_left (by decide) places

/-- A decimal with a large exponent is beyond all finite numbers. -/
theorem ofQuotient_of_large_exponent {digits exponent : Nat} (nonzero : digits ≠ 0)
    (large : 400 < exponent) (negative : Bool) :
    ofQuotient negative (digits * 10 ^ exponent * 2 ^ unitExponent) 1 = .infinite negative := by
  have beyond : 2097 < 3 * exponent + unitExponent := by
    simp only [unitExponent]
    omega
  have tens : 2 ^ (3 * exponent) ≤ 10 ^ exponent := two_pow_le_ten_pow (Nat.le_refl _)
  apply ofQuotient_of_large beyond
  calc 2 ^ (3 * exponent + unitExponent)
      = 1 * 2 ^ (3 * exponent) * 2 ^ unitExponent := by rw [Nat.one_mul, Nat.pow_add]
    _ ≤ digits * 10 ^ exponent * 2 ^ unitExponent :=
        Nat.mul_le_mul_right _ (Nat.mul_le_mul (Nat.pos_of_ne_zero nonzero) tens)
    _ = digits * 10 ^ exponent * 2 ^ unitExponent / 1 := (Nat.div_one _).symm

/-- A decimal with many places behind the point is below half a unit. -/
theorem ofQuotient_of_many_places {digits places : Nat} (many : digits.log2 + 402 ≤ places)
    (negative : Bool) :
    ofQuotient negative (digits * 2 ^ unitExponent) (10 ^ places) = zero negative := by
  apply ofQuotient_of_small
  calc 2 * (digits * 2 ^ unitExponent)
      < 2 * (2 ^ (digits.log2 + 1) * 2 ^ unitExponent) := by
        gcongr
        exact Nat.lt_log2_self
    _ = 2 ^ (digits.log2 + 2 + unitExponent) := by
        rw [Nat.pow_add]
        ring
    _ ≤ 10 ^ places := by
        apply two_pow_le_ten_pow
        simp only [unitExponent]
        omega

/-- A decimal is rounded as the quotient that it stands for. -/
theorem ofDecimal_eq (negative : Bool) (digits : Nat) (exponent : Int) :
    ofDecimal negative digits exponent =
      ofQuotient negative (digits * 10 ^ exponent.toNat * 2 ^ unitExponent)
        (10 ^ (-exponent).toNat) := by
  unfold ofDecimal
  split
  · rename_i zero
    rw [zero, Nat.zero_mul, Nat.zero_mul, ofQuotient_of_small (by positivity)]
  · rename_i nonzero
    split
    · rename_i above
      have whole : (-exponent).toNat = 0 := by omega
      rw [whole, Nat.pow_zero, ofQuotient_of_large_exponent nonzero (by omega)]
    · split
      · rename_i below
        have fraction : exponent.toNat = 0 := by omega
        rw [fraction, Nat.pow_zero, Nat.mul_one, ofQuotient_of_many_places (by omega)]
      · cases exponent with
        | ofNat e => simp
        | negSucc e => simp

/-- Zeros count among the digits as they do in the exponent. -/
theorem ofDecimal_mul_pow (negative : Bool) (digits zeros : Nat) (exponent : Int) :
    ofDecimal negative (digits * 10 ^ zeros) exponent =
      ofDecimal negative digits (exponent + zeros) := by
  rw [ofDecimal_eq, ofDecimal_eq]
  apply ofQuotient_congr (by positivity) (by positivity)
  have places : zeros + exponent.toNat + (-(exponent + zeros)).toNat =
      (exponent + zeros).toNat + (-exponent).toNat := by omega
  calc digits * 10 ^ zeros * 10 ^ exponent.toNat * 2 ^ unitExponent *
        10 ^ (-(exponent + zeros)).toNat
      = digits * 2 ^ unitExponent *
          10 ^ (zeros + exponent.toNat + (-(exponent + zeros)).toNat) := by
        rw [Nat.pow_add, Nat.pow_add]
        ring
    _ = digits * 10 ^ (exponent + zeros).toNat * 2 ^ unitExponent * 10 ^ (-exponent).toNat := by
        rw [places, Nat.pow_add]
        ring

end ScopedRouting.Binary64
