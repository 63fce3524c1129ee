import BlockQuery.Number.Rounding
import Mathlib.Algebra.Order.Field.Power
import Mathlib.Data.Rat.Floor
import Mathlib.Tactic.Linarith
import Mathlib.Tactic.Positivity

/-!
# Errors of rounding

Rounding to an integer moves a number by a half at most.  Rounding to 53 significant
bits moves it by its 2 ^ 53rd part at most, because the leading bit of a number is
not above the number.  An integer of no more than 53 bits is not moved at all.
-/

namespace BlockQuery.Number

/-! ## Integers -/

theorem abs_roundHalfEven_sub_le (x : Rat) : |(roundHalfEven x : Rat) - x| ≤ 1 / 2 := by
  have below : (x.floor : Rat) ≤ x := Int.floor_le x
  have above : x < x.floor + 1 := Int.lt_floor_add_one x
  rw [abs_le, roundHalfEven]
  split
  · constructor <;> linarith
  · split
    · push_cast
      constructor <;> linarith
    · split
      · constructor <;> linarith
      · push_cast
        constructor <;> linarith

/-- A number is rounded to the integer that is less than a half away. -/
theorem roundHalfEven_eq_of_near {x : Rat} {n : Int} (near : |x - n| < 1 / 2) :
    roundHalfEven x = n := by
  have moved := abs_roundHalfEven_sub_le x
  rw [abs_le] at moved
  rw [abs_lt] at near
  have upper : (roundHalfEven x : Rat) < n + 1 := by linarith
  have lower : (n : Rat) < roundHalfEven x + 1 := by linarith
  norm_cast at upper lower
  omega

theorem roundHalfEven_intCast (n : Int) : roundHalfEven n = n := by
  apply roundHalfEven_eq_of_near
  rw [sub_self, abs_zero]
  norm_num

/-! ## Significant bits -/

section Bits

variable {x : Rat}

/-- The leading bit is not above the number. -/
theorem two_pow_leadingExponent_le (nonzero : x ≠ 0) : (2 : Rat) ^ leadingExponent x ≤ |x| := by
  have positive : (0 : Rat) < x.den := by exact_mod_cast x.den_pos
  have size : |x| = x.num.natAbs / x.den := by
    rw [Nat.cast_natAbs, Int.cast_abs, ← Nat.abs_cast x.den, ← abs_div, Rat.num_div_den]
  rw [size, le_div_iff₀ positive, leadingExponent]
  split
  · have numerator : ((2 ^ x.num.natAbs.log2 : Nat) : Rat) ≤ x.num.natAbs := by
      exact_mod_cast Nat.log2_self_le (Int.natAbs_ne_zero.mpr (Rat.num_ne_zero.mpr nonzero))
    have denominator : (x.den : Rat) ≤ (2 ^ (x.den.log2 + 1) : Nat) := by
      exact_mod_cast Nat.lt_log2_self.le
    calc
      (2 : Rat) ^ ((x.num.natAbs.log2 : Int) - x.den.log2 - 1) * x.den
          ≤ 2 ^ ((x.num.natAbs.log2 : Int) - x.den.log2 - 1) * (2 ^ (x.den.log2 + 1) : Nat) := by
            gcongr
      _ = (2 ^ x.num.natAbs.log2 : Nat) := by
            push_cast
            rw [← zpow_natCast, ← zpow_natCast, ← zpow_add₀ two_ne_zero]
            congr 1
            push_cast
            ring
      _ ≤ x.num.natAbs := numerator
  · next notBelow =>
    rw [not_lt] at notBelow
    rwa [mul_comm]

theorem spacing_pos (x : Rat) : 0 < spacing x := by
  rw [spacing]
  positivity

theorem spacing_le (nonzero : x ≠ 0) : spacing x ≤ |x| / 2 ^ 52 := by
  have split : spacing x = 2 ^ leadingExponent x / 2 ^ 52 := by
    rw [spacing, zpow_sub₀ two_ne_zero]
    rfl
  rw [split]
  gcongr
  exact two_pow_leadingExponent_le nonzero

theorem abs_round53_sub_le (x : Rat) : |round53 x - x| ≤ |x| / 2 ^ 53 := by
  rw [round53]
  split
  · next zero => simp [zero]
  · next nonzero =>
    have positive := spacing_pos x
    have moved := abs_roundHalfEven_sub_le (x / spacing x)
    have scaled : (roundHalfEven (x / spacing x) : Rat) * spacing x - x =
        (roundHalfEven (x / spacing x) - x / spacing x) * spacing x := by
      rw [sub_mul, div_mul_cancel₀ x positive.ne']
    calc
      |(roundHalfEven (x / spacing x) : Rat) * spacing x - x|
          = |(roundHalfEven (x / spacing x) : Rat) - x / spacing x| * spacing x := by
            rw [scaled, abs_mul, abs_of_pos positive]
      _ ≤ 1 / 2 * (|x| / 2 ^ 52) := by
            gcongr
            exact spacing_le nonzero
      _ = |x| / 2 ^ 53 := by ring

/-- Rounding a number that is near to `x` adds one rounding to the distance. -/
theorem abs_round53_sub_le_of_near {y distance step : Rat} (near : |y - x| ≤ distance)
    (small : |x| + distance ≤ 2 ^ 53 * step) : |round53 y - x| ≤ distance + step := by
  have size : |y| ≤ |x| + |y - x| := by
    have triangle := abs_add_le x (y - x)
    rwa [add_sub_cancel] at triangle
  have rounded : |y| / 2 ^ 53 ≤ step := by
    rw [div_le_iff₀ (by positivity)]
    linarith
  calc
    |round53 y - x| ≤ |round53 y - y| + |y - x| := abs_sub_le (round53 y) y x
    _ ≤ step + distance := add_le_add ((abs_round53_sub_le y).trans rounded) near
    _ = distance + step := add_comm step distance

/-- An integer of no more than 53 bits is a multiple of the spacing around it. -/
theorem round53_intCast {n : Int} (small : |n| < 2 ^ 53) : round53 n = n := by
  rw [round53]
  split
  · next zero => exact zero.symm
  · next nonzero =>
    have leading := two_pow_leadingExponent_le nonzero
    have size : |(n : Rat)| < 2 ^ 53 := by exact_mod_cast small
    have low : leadingExponent n < 53 := by
      have order : (2 : Rat) ^ leadingExponent n < 2 ^ (53 : Int) := leading.trans_lt size
      rwa [zpow_lt_zpow_iff_right₀ one_lt_two] at order
    obtain ⟨places, exponent⟩ : ∃ places : Nat, leadingExponent n - 52 = -places :=
      ⟨(52 - leadingExponent n).toNat, by omega⟩
    have spaced : spacing n = 1 / 2 ^ places := by
      rw [spacing, exponent, zpow_neg, zpow_natCast, one_div]
    have multiple : (n : Rat) / spacing n = (n * 2 ^ places : Int) := by
      rw [spaced, div_div_eq_mul_div, div_one]
      push_cast
      rfl
    rw [multiple, roundHalfEven_intCast, ← multiple, div_mul_cancel₀ _ (spacing_pos _).ne']

end Bits

end BlockQuery.Number
