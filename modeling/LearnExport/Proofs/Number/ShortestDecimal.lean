import LearnExport.Proofs.Number.RoundingIntervals
import LearnExport.Proofs.Text.Numerals
import Mathlib.Data.Nat.Cast.Order.Field

/-!
# Shortest decimals are read back

The search for the shortest decimal tests whether a candidate is rounded to the
number. The test is one on fractions of natural numbers, and says that the decimal
lies between the number's bounds. On the last grid nothing is tested; but there the
better neighbour is nearer to the number than either bound, as seventeen digits are
finer than 53 bits.
-/

namespace LearnExport.Number

/-- The number that a decimal denotes. -/
def Decimal.value (number : Decimal) : ℚ :=
  number.digits * 10 ^ number.exponent

namespace Rounded

variable {number : Rounded} {tie : Tie}

theorem factor_eq (number : Rounded) (scale : ℤ) :
    (number.factor scale : ℚ) * 10 ^ scale = 2 ^ number.exponent * number.denominator scale := by
  have two := zpow_eq_div 2 (by norm_num) number.exponent
  have ten := zpow_eq_div 10 (by norm_num) scale
  rw [two, ten, factor, denominator]
  simp only [Nat.pow_eq]
  push_cast
  field_simp

theorem factor_pos (number : Rounded) (scale : ℤ) : 0 < number.factor scale :=
  Nat.mul_pos (Nat.pow_pos (by decide)) (Nat.pow_pos (by decide))

theorem denominator_pos (number : Rounded) (scale : ℤ) : 0 < number.denominator scale :=
  Nat.mul_pos (Nat.pow_pos (by decide)) (Nat.pow_pos (by decide))

/-- The better neighbour is at most half a step of the grid away. -/
theorem neighbours_cases (tie : Tie) (number : Rounded) (scale : ℤ) :
    ∃ quotient remainder,
      number.significand * number.factor scale =
        quotient * number.denominator scale + remainder ∧
      remainder < number.denominator scale ∧
      ((number.neighbours tie scale).1 = quotient ∧ 2 * remainder ≤ number.denominator scale ∨
        (number.neighbours tie scale).1 = quotient + 1 ∧
          number.denominator scale ≤ 2 * remainder) := by
  refine ⟨_, _, (Nat.div_add_mod' _ _).symm, Nat.mod_lt _ (number.denominator_pos scale), ?_⟩
  simp only [neighbours]
  split
  · rename_i isLower
    simp only [Bool.or_eq_true, Bool.and_eq_true, decide_eq_true_eq, beq_iff_eq] at isLower
    omega
  · rename_i notLower
    simp only [Bool.or_eq_true, Bool.and_eq_true, decide_eq_true_eq, beq_iff_eq, not_or] at notLower
    omega

/-- Numbers are compared as the natural numbers that they are over one denominator. -/
theorem le_iff_of_scaled {number : Rounded} {scale : ℤ} {first second : ℚ}
    {firstQuarters secondQuarters : ℕ}
    (isFirst : first * (4 * number.denominator scale) = firstQuarters * 10 ^ scale)
    (isSecond : second * (4 * number.denominator scale) = secondQuarters * 10 ^ scale) :
    first ≤ second ↔ firstQuarters ≤ secondQuarters := by
  have denominator : (0 : ℚ) < 4 * number.denominator scale := by
    have := number.denominator_pos scale
    positivity
  have power : (0 : ℚ) < 10 ^ scale := by positivity
  rw [← mul_le_mul_iff_of_pos_right denominator, isFirst, isSecond,
    mul_le_mul_iff_of_pos_right power, Nat.cast_le]

/-- A decimal that is read back lies between the bounds of the number. -/
theorem encloses_of_isReadBack {scale : ℤ} {digits : Nat}
    (bounded : number.below ≤ 4 * number.significand)
    (isReadBack : number.isReadBack scale digits = true) :
    number.Encloses (digits * 10 ^ scale) := by
  have lower : number.lower * (4 * number.denominator scale) =
      ((4 * number.significand - number.below) * number.factor scale : ℕ) * 10 ^ scale := by
    rw [Nat.cast_mul, mul_assoc, factor_eq, Rounded.lower]
    push_cast [bounded]
    ring
  have upper : number.upper * (4 * number.denominator scale) =
      ((4 * number.significand + 2) * number.factor scale : ℕ) * 10 ^ scale := by
    rw [Nat.cast_mul, mul_assoc, factor_eq, Rounded.upper]
    push_cast
    ring
  have value : (digits * 10 ^ scale : ℚ) * (4 * number.denominator scale) =
      (4 * digits * number.denominator scale : ℕ) * 10 ^ scale := by
    push_cast
    ring
  simp only [Rounded.isReadBack] at isReadBack
  split at isReadBack
  · rename_i isEven
    simp only [Bool.and_eq_true, decide_eq_true_eq] at isReadBack
    exact ⟨(le_iff_of_scaled lower value).mpr isReadBack.1,
      (le_iff_of_scaled value upper).mpr isReadBack.2, fun _ => isEven, fun _ => isEven⟩
  · simp only [Bool.and_eq_true, decide_eq_true_eq] at isReadBack
    refine ⟨(le_iff_of_scaled lower value).mpr isReadBack.1.le,
      (le_iff_of_scaled value upper).mpr isReadBack.2.le, fun isLower => ?_, fun isUpper => ?_⟩
    · exact absurd ((le_iff_of_scaled value lower).mp isLower.le) isReadBack.1.not_ge
    · exact absurd ((le_iff_of_scaled upper value).mp isUpper.ge) isReadBack.2.not_ge

/-- A number with fewer significant digits than the last grid has. -/
structure IsShort (number : Rounded) : Prop where
  positive : 0 < number.significand
  below_le : number.below ≤ 2
  significand_lt : 2 * number.significand < number.below * 10 ^ 16
  le_exponent : -1074 ≤ number.exponent

theorem isShort_ofMagnitude {magnitude : Nat} (positive : 0 < magnitude) :
    (ofMagnitude magnitude).IsShort where
  positive := by
    change 0 < binary64.significand magnitude
    rw [BinaryFormat.significand, leadingBit_binary64]
    split <;> omega
  below_le := by
    simp only [ofMagnitude]
    split <;> decide
  significand_lt := by
    have bound := Number.significand_lt magnitude
    simp only [ofMagnitude]
    by_cases isPower : binary64.significand magnitude = binary64.leadingBit ∧
        binary64.leastExponent < binary64.unitExponent magnitude
    · rw [if_pos isPower, isPower.1]
      decide
    · rw [if_neg isPower]
      omega
  le_exponent := by
    have least : binary64.leastExponent = -1074 := rfl
    change -1074 ≤ binary64.unitExponent magnitude
    rw [BinaryFormat.unitExponent, least]
    split <;> omega

/-- On a grid whose half step is less than the distance of the bounds the better neighbour is
read back. -/
theorem isReadBack_neighbours {scale : ℤ} (short : number.IsShort)
    (fine : 2 * number.denominator scale < number.below * number.factor scale) (tie : Tie) :
    number.isReadBack scale (number.neighbours tie scale).1 = true := by
  obtain ⟨quotient, remainder, split, small, nearest⟩ := neighbours_cases tie number scale
  have inside : (4 * number.significand - number.below) * number.factor scale <
        4 * (number.neighbours tie scale).1 * number.denominator scale ∧
      4 * (number.neighbours tie scale).1 * number.denominator scale <
        (4 * number.significand + 2) * number.factor scale := by
    have belowCases : number.below = 0 ∨ number.below = 1 ∨ number.below = 2 := by
      have := short.below_le
      omega
    have factor := number.factor_pos scale
    have reach : number.below * number.factor scale ≤
        4 * (number.significand * number.factor scale) := by
      have := short.positive
      rw [← Nat.mul_assoc]
      exact Nat.mul_le_mul_right _ (by omega)
    rw [split] at reach
    rw [Nat.sub_mul, Nat.add_mul, Nat.mul_assoc 4 number.significand, split, Nat.mul_assoc 4]
    rcases nearest with ⟨isLower, near⟩ | ⟨isUpper, near⟩
    · rw [isLower]
      rcases belowCases with below | below | below <;> rw [below] at fine reach ⊢ <;> omega
    · rw [isUpper, Nat.add_mul, Nat.one_mul]
      rcases belowCases with below | below | below <;> rw [below] at fine reach ⊢ <;> omega
  simp only [isReadBack]
  split
  · simp [inside.1.le, inside.2.le]
  · simp [inside.1, inside.2]

theorem ten_zpow_leadingExponent_le (short : number.IsShort) :
    (10 : ℚ) ^ number.leadingExponent ≤ number.significand * 2 ^ number.exponent := by
  obtain ⟨places, isPlaces⟩ : ∃ places : ℕ, places = if number.exponent < 0 then 400 else 0 :=
    ⟨_, rfl⟩
  obtain ⟨whole, isWhole⟩ : ∃ whole, whole =
      number.significand * 2 ^ number.exponent.toNat * 10 ^ places /
        2 ^ (-number.exponent).toNat := ⟨_, rfl⟩
  have leading : number.leadingExponent = ((Text.decimal whole).length : ℤ) - 1 - places := by
    rw [isWhole, isPlaces]
    rfl
  have reaches : 2 ^ (-number.exponent).toNat ≤
      number.significand * 2 ^ number.exponent.toNat * 10 ^ places := by
    have significand := Nat.mul_pos short.positive (Nat.two_pow_pos number.exponent.toNat)
    have threeBits (count : ℕ) : 2 ^ (3 * count) ≤ 10 ^ count := by
      rw [Nat.pow_mul]
      exact Nat.pow_le_pow_left (by decide) count
    by_cases fractional : number.exponent < 0
    · have exponent := short.le_exponent
      rw [isPlaces, if_pos fractional]
      calc 2 ^ (-number.exponent).toNat ≤ 2 ^ (3 * 400) :=
            Nat.pow_le_pow_right (by decide) (by omega)
        _ ≤ 10 ^ 400 := threeBits 400
        _ ≤ _ := Nat.le_mul_of_pos_left _ significand
    · have isInteger : (-number.exponent).toNat = 0 := by omega
      rw [isInteger]
      exact Nat.mul_pos significand (Nat.pow_pos (by decide))
  have positive : whole ≠ 0 := by
    rw [isWhole]
    exact (Nat.div_pos reaches (Nat.two_pow_pos _)).ne'
  have digits : ((10 ^ ((Text.decimal whole).length - 1) : ℕ) : ℚ) ≤ whole := by
    exact_mod_cast Text.ten_pow_le_of_length positive
  have written : 1 ≤ (Text.decimal whole).length := Nat.length_toDigits_pos
  have floor : (whole : ℚ) ≤ number.significand * 2 ^ number.exponent * 10 ^ places := by
    rw [isWhole, zpow_eq_div 2 (by norm_num)]
    refine (Nat.cast_div_le (α := ℚ)).trans_eq ?_
    push_cast
    ring
  have power : (0 : ℚ) < 10 ^ places := by positivity
  refine le_of_mul_le_mul_right ?_ power
  calc (10 : ℚ) ^ number.leadingExponent * 10 ^ places
      = ((10 ^ ((Text.decimal whole).length - 1) : ℕ) : ℚ) := by
        rw [leading, ← zpow_natCast, ← zpow_add₀ (by norm_num)]
        push_cast
        rw [← zpow_natCast]
        congr 1
        omega
    _ ≤ whole := digits
    _ ≤ number.significand * 2 ^ number.exponent * 10 ^ places := floor

theorem last_grid_fine (short : number.IsShort) :
    2 * number.denominator (number.leadingExponent - 16) <
      number.below * number.factor (number.leadingExponent - 16) := by
  obtain ⟨scale, isScale⟩ : ∃ scale, scale = number.leadingExponent - 16 := ⟨_, rfl⟩
  have leading := ten_zpow_leadingExponent_le short
  have unit : (0 : ℚ) < 2 ^ number.exponent := by positivity
  have denominator : (0 : ℚ) < number.denominator scale :=
    Nat.cast_pos.mpr (number.denominator_pos scale)
  have digits : (2 * number.significand : ℚ) < number.below * 10 ^ 16 := by
    exact_mod_cast short.significand_lt
  have step : 2 * (10 : ℚ) ^ scale < number.below * 2 ^ number.exponent := by
    refine lt_of_mul_lt_mul_right (a := (10 : ℚ) ^ 16) ?_ (by positivity)
    calc 2 * (10 : ℚ) ^ scale * 10 ^ 16 = 2 * 10 ^ number.leadingExponent := by
          rw [isScale, mul_assoc, ← zpow_natCast, ← zpow_add₀ (by norm_num)]
          congr 2
          push_cast
          ring
      _ ≤ 2 * number.significand * 2 ^ number.exponent := by
          rw [mul_assoc]
          gcongr
      _ < number.below * 10 ^ 16 * 2 ^ number.exponent := by gcongr
      _ = number.below * 2 ^ number.exponent * 10 ^ 16 := by ring
  rw [← isScale, ← Nat.cast_lt (α := ℚ)]
  refine lt_of_mul_lt_mul_right (a := (10 : ℚ) ^ scale) ?_ (by positivity)
  calc ((2 * number.denominator scale : ℕ) : ℚ) * 10 ^ scale
      = 2 * 10 ^ scale * number.denominator scale := by
        push_cast
        ring
    _ < number.below * 2 ^ number.exponent * number.denominator scale := by gcongr
    _ = ((number.below * number.factor scale : ℕ) : ℚ) * 10 ^ scale := by
        rw [Nat.cast_mul, mul_assoc, mul_assoc, factor_eq]

theorem isReadBack_of_onGrid {scale : ℤ} {decimal : Decimal}
    (found : number.onGrid tie scale = some decimal) :
    number.isReadBack decimal.exponent decimal.digits = true := by
  simp only [onGrid] at found
  split at found
  · rename_i isReadBack
    rw [← Option.some.inj found]
    exact isReadBack
  · split at found
    · rename_i isReadBack
      rw [← Option.some.inj found]
      exact isReadBack
    · exact absurd found (by simp)

/-- The search ends with a decimal that is read back if the last grid has one. -/
theorem isReadBack_search {leading : ℤ} {attempts : ℕ} {count : ℤ}
    (last : number.isReadBack (leading - (count + attempts) + 1)
      (number.neighbours tie (leading - (count + attempts) + 1)).1 = true) :
    number.isReadBack (search tie number leading attempts count).exponent
      (search tie number leading attempts count).digits = true := by
  induction attempts generalizing count with
  | zero =>
      rw [Nat.cast_zero, add_zero] at last
      exact last
  | succ attempts ih =>
      rw [search]
      split
      · rename_i decimal found
        exact isReadBack_of_onGrid found
      · refine ih ?_
        have same : count + 1 + attempts = count + (attempts + 1 : ℕ) := by
          push_cast
          ring
        rw [same]
        exact last

theorem isReadBack_shortest (short : number.IsShort) (tie : Tie) :
    number.isReadBack (number.shortest tie).exponent (number.shortest tie).digits = true := by
  refine isReadBack_search ?_
  have scale : number.leadingExponent - (1 + (16 : ℕ)) + 1 = number.leadingExponent - 16 := by
    push_cast
    ring
  rw [scale]
  exact isReadBack_neighbours short (last_grid_fine short) tie

/-- The shortest decimal of a magnitude is rounded to this magnitude. -/
theorem encloses_shortest {magnitude : Nat} (positive : 0 < magnitude) (tie : Tie) :
    (ofMagnitude magnitude).Encloses ((ofMagnitude magnitude).shortest tie).value := by
  have short := isShort_ofMagnitude positive
  refine encloses_of_isReadBack ?_ (isReadBack_shortest short tie)
  have := short.positive
  have := short.below_le
  omega

end Rounded

end LearnExport.Number
