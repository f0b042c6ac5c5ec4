import LearnExport.Number.Binary64
import Mathlib.Algebra.Order.Field.Power
import Mathlib.Algebra.Order.Ring.Abs
import Mathlib.Data.Rat.Cast.Order
import Mathlib.Tactic.FieldSimp
import Mathlib.Tactic.Linarith
import Mathlib.Tactic.Positivity
import Mathlib.Tactic.Ring

/-!
# Integers as doubles

A finite double is a significand of at most 53 bits times a power of two. The double of an
integer is a nearest one: its unit is the last of the 53 places that begin with the first bit of
the integer, and doubles with a smaller unit lie below the power of two at this bit. So
an integer is a double itself exactly if it is a number of 53 bits times a power of two.
-/

namespace LearnExport.Number

section Quotients

variable {numerator denominator : Nat}

/-- A quotient is rounded down or up, and never by more than half a unit. -/
theorem nearestQuotient_cases (numerator : Nat) (positive : 0 < denominator) :
    ∃ quotient remainder, numerator = quotient * denominator + remainder ∧
      remainder < denominator ∧
      (nearestQuotient numerator denominator = quotient ∧ 2 * remainder ≤ denominator ∨
        nearestQuotient numerator denominator = quotient + 1 ∧ denominator ≤ 2 * remainder) := by
  refine ⟨numerator / denominator, numerator % denominator,
    (Nat.div_add_mod' numerator denominator).symm, Nat.mod_lt _ positive, ?_⟩
  simp only [nearestQuotient]
  split
  · omega
  · split <;> omega

theorem two_mul_abs_nearestQuotient_le (numerator : Nat) (positive : 0 < denominator) :
    2 * |(nearestQuotient numerator denominator * denominator - numerator : ℤ)| ≤
      denominator := by
  obtain ⟨quotient, remainder, rfl, small, ⟨isBelow, near⟩ | ⟨isAbove, near⟩⟩ :=
    nearestQuotient_cases numerator positive
  · have distance : ((quotient : ℤ) * denominator -
        (quotient * denominator + remainder : ℕ)) = -remainder := by
      push_cast
      ring
    rw [isBelow, distance, abs_neg, Nat.abs_cast]
    exact_mod_cast near
  · have distance : (((quotient + 1 : ℕ) : ℤ) * denominator -
        (quotient * denominator + remainder : ℕ)) = (denominator - remainder : ℕ) := by
      push_cast [small.le]
      ring
    rw [isAbove, distance, Nat.abs_cast]
    omega

/-- No whole number is nearer to a quotient than the one it is rounded to. -/
theorem abs_nearestQuotient_le (numerator : Nat) (positive : 0 < denominator) (other : ℤ) :
    |(nearestQuotient numerator denominator * denominator - numerator : ℤ)| ≤
      |other * denominator - numerator| := by
  by_cases same : other = nearestQuotient numerator denominator
  · rw [same]
  · have apart : (denominator : ℤ) ≤
        |other * denominator - nearestQuotient numerator denominator * denominator| := by
      rw [← sub_mul, abs_mul, Nat.abs_cast]
      exact le_mul_of_one_le_left (Int.natCast_nonneg _) (Int.one_le_abs (sub_ne_zero.mpr same))
    have between := abs_sub_le (other * denominator : ℤ) numerator
      (nearestQuotient numerator denominator * denominator)
    rw [abs_sub_comm (numerator : ℤ)] at between
    have near := two_mul_abs_nearestQuotient_le numerator positive
    linarith

theorem nearestQuotient_mul (whole : Nat) (positive : 0 < denominator) :
    nearestQuotient (whole * denominator) denominator = whole := by
  have near := abs_nearestQuotient_le (whole * denominator) positive whole
  rw [Nat.cast_mul, sub_self, abs_zero] at near
  have same := sub_eq_zero.mp (abs_nonpos_iff.mp near)
  exact_mod_cast mul_right_cancel₀ (Int.natCast_ne_zero.mpr positive.ne') same

theorem le_nearestQuotient (positive : 0 < denominator) {least : Nat}
    (bound : least * denominator ≤ numerator) :
    least ≤ nearestQuotient numerator denominator := by
  obtain ⟨quotient, remainder, rfl, small, rounded⟩ := nearestQuotient_cases numerator positive
  have atLeast : least < quotient + 1 := by
    refine lt_of_mul_lt_mul_right (a := denominator) ?_ (Nat.zero_le _)
    rw [add_mul, one_mul]
    omega
  omega

theorem nearestQuotient_le (positive : 0 < denominator) {greatest : Nat}
    (bound : numerator ≤ greatest * denominator) :
    nearestQuotient numerator denominator ≤ greatest := by
  obtain ⟨quotient, remainder, rfl, small, ⟨isBelow, near⟩ | ⟨isAbove, near⟩⟩ :=
    nearestQuotient_cases numerator positive
  · rw [isBelow]
    exact le_of_mul_le_mul_right ((Nat.le_add_right _ _).trans bound) positive
  · rw [isAbove, Nat.succ_le_iff]
    refine lt_of_mul_lt_mul_right (a := denominator) ?_ (Nat.zero_le _)
    omega

end Quotients

/-- A power is a quotient of powers with natural exponents. -/
theorem zpow_eq_div (base : ℚ) (nonzero : base ≠ 0) (exponent : ℤ) :
    base ^ exponent = base ^ exponent.toNat / base ^ (-exponent).toNat := by
  rw [← zpow_natCast, ← zpow_natCast, ← zpow_sub₀ nonzero]
  congr 1
  omega

section Magnitudes

/-- The number that a finite magnitude denotes. -/
def magnitudeValue (magnitude : Nat) : ℚ :=
  binary64.numerator magnitude / binary64.denominator magnitude

theorem magnitudeValue_eq (magnitude : Nat) :
    magnitudeValue magnitude =
      binary64.significand magnitude * (2 : ℚ) ^ binary64.unitExponent magnitude := by
  rw [magnitudeValue, zpow_eq_div 2 (by norm_num), BinaryFormat.numerator,
    BinaryFormat.denominator]
  simp only [Nat.pow_eq]
  push_cast
  ring

theorem magnitudeValue_nonneg (magnitude : Nat) : 0 ≤ magnitudeValue magnitude := by
  rw [magnitudeValue]
  positivity

theorem leadingBit_binary64 : binary64.leadingBit = 4503599627370496 := rfl

theorem significand_lt (magnitude : Nat) :
    binary64.significand magnitude < 9007199254740992 := by
  rw [BinaryFormat.significand, leadingBit_binary64]
  split <;> omega

theorem significand_of_small {magnitude : Nat} (small : magnitude < 4503599627370496) :
    binary64.significand magnitude = magnitude ∧ binary64.unitExponent magnitude = -1074 := by
  rw [BinaryFormat.significand, BinaryFormat.unitExponent, leadingBit_binary64, if_pos small,
    if_pos small]
  exact ⟨rfl, rfl⟩

theorem significand_of_pattern (steps : Nat) {significand : Nat}
    (isFull : 4503599627370496 ≤ significand) (fits : significand < 9007199254740992) :
    binary64.significand (steps * 4503599627370496 + significand) = significand ∧
      binary64.unitExponent (steps * 4503599627370496 + significand) = (steps : ℤ) - 1074 := by
  have large : ¬ steps * 4503599627370496 + significand < 4503599627370496 := by omega
  have least : binary64.leastExponent = -1074 := rfl
  rw [BinaryFormat.significand, BinaryFormat.unitExponent, leadingBit_binary64, if_neg large,
    if_neg large, least]
  omega

/-- A significand with its first bit set, or the next power of two, stands in a pattern as it
is: the latter is carried into the exponent. -/
theorem magnitudeValue_pattern (steps : Nat) {significand : Nat}
    (isFull : 4503599627370496 ≤ significand) (fits : significand ≤ 9007199254740992) :
    magnitudeValue (steps * 4503599627370496 + significand) =
      significand * (2 : ℚ) ^ ((steps : ℤ) - 1074) := by
  rcases fits.lt_or_eq with isLess | rfl
  · obtain ⟨place, unit⟩ := significand_of_pattern steps isFull isLess
    rw [magnitudeValue_eq, place, unit]
  · have carried : steps * 4503599627370496 + 9007199254740992 =
        (steps + 1) * 4503599627370496 + 4503599627370496 := by omega
    have exponent : ((steps + 1 : ℕ) : ℤ) - 1074 = (steps : ℤ) - 1074 + 1 := by omega
    obtain ⟨place, unit⟩ := significand_of_pattern (steps + 1) le_rfl (by decide)
    rw [carried, magnitudeValue_eq, place, unit, exponent, zpow_add_one₀ (by norm_num)]
    push_cast
    ring

/-- The significand of the magnitude nearest to a natural number. -/
def integerSignificand (number : Nat) : Nat :=
  nearestQuotient (number * 2 ^ (52 - number.log2)) (2 ^ (number.log2 - 52))

theorem integerSignificand_bounds {number : Nat} (positive : number ≠ 0) :
    4503599627370496 ≤ integerSignificand number ∧
      integerSignificand number ≤ 9007199254740992 := by
  have sameBits : 52 + (number.log2 - 52) = number.log2 + (52 - number.log2) := by omega
  constructor
  · refine le_nearestQuotient (Nat.two_pow_pos _) ?_
    calc 4503599627370496 * 2 ^ (number.log2 - 52)
        = 2 ^ number.log2 * 2 ^ (52 - number.log2) := by rw [← pow_add, ← sameBits, pow_add]; rfl
      _ ≤ number * 2 ^ (52 - number.log2) :=
          Nat.mul_le_mul_right _ (Nat.log2_self_le positive)
  · refine nearestQuotient_le (Nat.two_pow_pos _) ?_
    calc number * 2 ^ (52 - number.log2)
        ≤ 2 ^ (number.log2 + 1) * 2 ^ (52 - number.log2) :=
          Nat.mul_le_mul_right _ Nat.lt_log2_self.le
      _ = 9007199254740992 * 2 ^ (number.log2 - 52) := by
          rw [pow_succ, mul_right_comm, ← pow_add, ← sameBits, pow_add, mul_right_comm]; rfl

theorem fullExponent_one {number : Nat} (positive : number ≠ 0) :
    binary64.fullExponent number 1 = (number.log2 : ℤ) - 52 := by
  have firstBit : Nat.log2 1 = 0 := by decide
  have precision : binary64.precision = 53 := rfl
  simp only [BinaryFormat.fullExponent, firstBit, precision, Nat.pow_eq]
  -- The guess is one too small, as the quotient has at least 54 bits there.
  have full : 2 ^ 53 ≤ number * 2 ^ (-((number.log2 : ℤ) - (0 : ℕ) - (53 : ℕ))).toNat /
      (1 * 2 ^ ((number.log2 : ℤ) - (0 : ℕ) - (53 : ℕ)).toNat) := by
    rw [one_mul, Nat.le_div_iff_mul_le (Nat.two_pow_pos _)]
    have sameBits : 53 + ((number.log2 : ℤ) - (0 : ℕ) - (53 : ℕ)).toNat =
        number.log2 + (-((number.log2 : ℤ) - (0 : ℕ) - (53 : ℕ))).toNat := by omega
    rw [← pow_add, sameBits, pow_add]
    exact Nat.mul_le_mul_right _ (Nat.log2_self_le positive)
  rw [if_pos full]
  omega

/-- The first bit of a natural number decides the pattern of its nearest magnitude. -/
theorem ofQuotient_one {number : Nat} (positive : number ≠ 0) (bounded : number.log2 ≤ 1022) :
    binary64.ofQuotient number 1 =
      (number.log2 + 1022) * 4503599627370496 + integerSignificand number := by
  have least : binary64.leastExponent = -1074 := rfl
  have infinity : binary64.infinity = 9218868437227405312 := rfl
  have exponent : max ((number.log2 : ℤ) - 52) (-1074) = (number.log2 : ℤ) - 52 := by omega
  have places : (-((number.log2 : ℤ) - 52)).toNat = 52 - number.log2 := by omega
  have unit : ((number.log2 : ℤ) - 52).toNat = number.log2 - 52 := by omega
  have steps : ((number.log2 : ℤ) - 52 - -1074).toNat = number.log2 + 1022 := by omega
  have significand : nearestQuotient (number * 2 ^ (52 - number.log2)) (2 ^ (number.log2 - 52)) =
      integerSignificand number := rfl
  have bound := (integerSignificand_bounds positive).2
  rw [BinaryFormat.ofQuotient, if_neg positive]
  simp only [fullExponent_one positive, least, exponent, places, unit, steps, one_mul,
    leadingBit_binary64, infinity, Nat.pow_eq, significand]
  exact min_eq_right (by omega)

theorem log2_le_of_lt {number : Nat} (bounded : number < 2 ^ 64) : number.log2 ≤ 1022 := by
  rcases eq_or_ne number 0 with rfl | positive
  · simp
  · have small := (Nat.log2_lt positive).mpr bounded
    omega

theorem magnitudeValue_ofQuotient_one {number : Nat} (positive : number ≠ 0)
    (bounded : number.log2 ≤ 1022) :
    magnitudeValue (binary64.ofQuotient number 1) =
      integerSignificand number * (2 : ℚ) ^ ((number.log2 : ℤ) - 52) := by
  have bounds := integerSignificand_bounds positive
  have exponent : ((number.log2 + 1022 : ℕ) : ℤ) - 1074 = (number.log2 : ℤ) - 52 := by omega
  rw [ofQuotient_one positive bounded, magnitudeValue_pattern _ bounds.1 bounds.2, exponent]

theorem magnitudeValue_ofQuotient_zero : magnitudeValue (binary64.ofQuotient 0 1) = 0 := by
  rw [BinaryFormat.ofQuotient, if_pos rfl, magnitudeValue_eq, BinaryFormat.significand,
    leadingBit_binary64]
  simp

/-- A natural number is its own nearest magnitude if it ends in as many zeros as do not fit. -/
theorem magnitudeValue_ofQuotient_of_dvd {number : Nat} (bounded : number.log2 ≤ 1022)
    (fits : 2 ^ (number.log2 - 52) ∣ number) :
    magnitudeValue (binary64.ofQuotient number 1) = number := by
  rcases eq_or_ne number 0 with rfl | positive
  · simpa using magnitudeValue_ofQuotient_zero
  · obtain ⟨significand, split⟩ := fits
    have exact : number * 2 ^ (52 - number.log2) =
        significand * 2 ^ (52 - number.log2) * 2 ^ (number.log2 - 52) :=
      (congrArg (· * 2 ^ (52 - number.log2)) split).trans (by ring)
    have power : (2 : ℚ) ^ ((number.log2 : ℤ) - 52) =
        2 ^ (number.log2 - 52) / 2 ^ (52 - number.log2) := by
      rw [← zpow_natCast, ← zpow_natCast, ← zpow_sub₀ (by norm_num)]
      congr 1
      omega
    rw [magnitudeValue_ofQuotient_one positive bounded, integerSignificand, exact,
      nearestQuotient_mul _ (Nat.two_pow_pos _), power]
    have whole : (number : ℚ) = 2 ^ (number.log2 - 52) * significand := by exact_mod_cast split
    rw [whole]
    push_cast
    field_simp

/-- No magnitude is nearer to a natural number than the one that is nearest by
definition. -/
theorem abs_magnitudeValue_ofQuotient_le {number : Nat} (bounded : number.log2 ≤ 1022)
    (other : Nat) :
    |magnitudeValue (binary64.ofQuotient number 1) - number| ≤
      |magnitudeValue other - number| := by
  by_cases short : number.log2 ≤ 52
  · -- Up to 53 bits the number is itself a magnitude.
    have noZeros : number.log2 - 52 = 0 := by omega
    rw [magnitudeValue_ofQuotient_of_dvd bounded (by simp [noZeros]), sub_self, abs_zero]
    exact abs_nonneg _
  have positive : number ≠ 0 := by
    rintro rfl
    exact short (by decide)
  obtain ⟨zeros, bits⟩ : ∃ zeros, number.log2 = 52 + zeros := ⟨number.log2 - 52, by omega⟩
  have significand : integerSignificand number = nearestQuotient number (2 ^ zeros) := by
    have noPlaces : 52 - number.log2 = 0 := by omega
    have places : number.log2 - 52 = zeros := by omega
    rw [integerSignificand, noPlaces, places, pow_zero, mul_one]
  have nearest (multiple : ℤ) :
      |(integerSignificand number : ℚ) * 2 ^ zeros - number| ≤
        |(multiple : ℚ) * 2 ^ zeros - number| := by
    have whole := abs_nearestQuotient_le number (Nat.two_pow_pos zeros) multiple
    rw [← significand] at whole
    exact_mod_cast whole
  have value : magnitudeValue (binary64.ofQuotient number 1) =
      integerSignificand number * 2 ^ zeros := by
    have exponent : (number.log2 : ℤ) - 52 = (zeros : ℤ) := by omega
    rw [magnitudeValue_ofQuotient_one positive bounded, exponent, zpow_natCast]
  rw [value]
  by_cases coarse : (zeros : ℤ) ≤ binary64.unitExponent other
  · -- The other magnitude is a multiple of the same unit.
    obtain ⟨factor, exponent⟩ : ∃ factor : ℕ, binary64.unitExponent other = zeros + factor :=
      ⟨(binary64.unitExponent other - zeros).toNat, by omega⟩
    have multiple : magnitudeValue other =
        ((binary64.significand other * 2 ^ factor : ℤ) : ℚ) * 2 ^ zeros := by
      rw [magnitudeValue_eq, exponent, zpow_add₀ (by norm_num), zpow_natCast, zpow_natCast]
      push_cast
      ring
    rw [multiple]
    exact nearest _
  · -- The other magnitude is below the power of two at the first bit of the number.
    have firstBit : (4503599627370496 : ℚ) * 2 ^ zeros ≤ number := by
      have bound := Nat.log2_self_le positive
      rw [bits, pow_add] at bound
      exact_mod_cast bound
    have below : magnitudeValue other ≤ 4503599627370496 * 2 ^ zeros := by
      have small : (binary64.significand other : ℚ) ≤ 2 ^ 53 := by
        exact_mod_cast (significand_lt other).le
      have unit : (2 : ℚ) ^ binary64.unitExponent other ≤ 2 ^ ((zeros : ℤ) - 1) :=
        zpow_le_zpow_right₀ (by norm_num) (by omega)
      calc magnitudeValue other
          = binary64.significand other * (2 : ℚ) ^ binary64.unitExponent other :=
            magnitudeValue_eq other
        _ ≤ 2 ^ 53 * 2 ^ ((zeros : ℤ) - 1) := by gcongr
        _ = 4503599627370496 * 2 ^ zeros := by
            rw [zpow_sub_one₀ (by norm_num), zpow_natCast]
            ring
    have atFirstBit := nearest 4503599627370496
    push_cast at atFirstBit
    rw [abs_of_nonpos (sub_nonpos.mpr firstBit)] at atFirstBit
    rw [abs_of_nonpos (a := magnitudeValue other - number) (by linarith)]
    linarith

theorem ofQuotient_one_lt_infinity {number : Nat} (bounded : number.log2 ≤ 1022) :
    binary64.ofQuotient number 1 < binary64.infinity := by
  have infinity : binary64.infinity = 9218868437227405312 := rfl
  rw [infinity]
  rcases eq_or_ne number 0 with rfl | positive
  · rw [BinaryFormat.ofQuotient, if_pos rfl]
    decide
  · have bound := (integerSignificand_bounds positive).2
    rw [ofQuotient_one positive bounded]
    omega

end Magnitudes

namespace Binary64

/-- The number that a finite double denotes. -/
def value (number : Binary64) : ℚ :=
  if number.isNegative then -magnitudeValue number.magnitude else magnitudeValue number.magnitude

/-- That a double is finite and no finite double is nearer to a number. -/
structure IsNearest (double : Binary64) (number : ℚ) : Prop where
  finite : double.isFinite = true
  closest : ∀ other : Binary64, other.isFinite = true →
    |double.value - number| ≤ |other.value - number|

section

variable {negative : Bool} {pattern : Nat}

theorem toNat_bits_ofMagnitude (negative : Bool) (inRange : pattern < 0x8000000000000000) :
    (ofMagnitude negative pattern).bits.toNat =
      pattern + if negative then 0x8000000000000000 else 0 := by
  rw [ofMagnitude, UInt64.toNat_ofNat', Nat.mod_eq_of_lt]
  split <;> omega

theorem magnitude_ofMagnitude (inRange : pattern < 0x8000000000000000) :
    (ofMagnitude negative pattern).magnitude = pattern := by
  rw [magnitude, toNat_bits_ofMagnitude negative inRange]
  split <;> omega

theorem isNegative_ofMagnitude (inRange : pattern < 0x8000000000000000) :
    (ofMagnitude negative pattern).isNegative = negative := by
  have bits := toNat_bits_ofMagnitude negative inRange
  have signBit : (0x8000000000000000 : UInt64).toNat = 0x8000000000000000 := rfl
  simp only [isNegative, UInt64.le_iff_toNat_le, signBit, bits]
  cases negative <;> simp
  omega

theorem value_ofMagnitude (inRange : pattern < 0x8000000000000000) :
    (ofMagnitude negative pattern).value =
      if negative then -magnitudeValue pattern else magnitudeValue pattern := by
  rw [value, isNegative_ofMagnitude inRange, magnitude_ofMagnitude inRange]

end

/-- An integer of at most 53 bits but for the zeros it ends in. -/
def FitsDouble (number : ℤ) : Prop :=
  ∃ significand : ℤ, ∃ places : ℕ, significand.natAbs ≤ 2 ^ 53 ∧ number = significand * 2 ^ places

theorem fitsDouble_of_natAbs_le {number : ℤ} (small : number.natAbs ≤ 2 ^ 53) : FitsDouble number :=
  ⟨number, 0, small, by rw [pow_zero, mul_one]⟩

private theorem natAbs_two_pow (places : ℕ) : ((2 : ℤ) ^ places).natAbs = 2 ^ places :=
  Int.natAbs_pow 2 places

/-- A number that fits ends in as many zeros as there are bits after the first 53. -/
theorem FitsDouble.dvd {number : ℤ} (fits : FitsDouble number) :
    2 ^ (number.natAbs.log2 - 52) ∣ number.natAbs := by
  obtain ⟨significand, places, small, rfl⟩ := fits
  rw [Int.natAbs_mul, natAbs_two_pow]
  rcases eq_or_ne significand.natAbs 0 with zero | positive
  · simp [zero]
  rcases small.lt_or_eq with isLess | isPower
  · have bits : (significand.natAbs * 2 ^ places).log2 < 53 + places := by
      rw [Nat.log2_lt (Nat.mul_ne_zero positive (Nat.two_pow_pos _).ne'), pow_add]
      exact Nat.mul_lt_mul_of_pos_right isLess (Nat.two_pow_pos _)
    exact (pow_dvd_pow 2 (by omega)).trans (Nat.dvd_mul_left _ _)
  · rw [isPower, ← pow_add, Nat.log2_two_pow]
    exact pow_dvd_pow 2 (by omega)

/-- An integer that a double denotes fits. -/
theorem fitsDouble_of_value_eq {double : Binary64} {number : ℤ}
    (denotes : double.value = number) : FitsDouble number := by
  obtain ⟨significand, small, split⟩ : ∃ significand : ℤ, significand.natAbs ≤ 2 ^ 53 ∧
      (number : ℚ) = significand * (2 : ℚ) ^ binary64.unitExponent double.magnitude := by
    have bound := (significand_lt double.magnitude).le
    rw [← denotes, value, magnitudeValue_eq]
    split
    · exact ⟨-binary64.significand double.magnitude, by omega, by push_cast; ring⟩
    · exact ⟨binary64.significand double.magnitude, by omega, rfl⟩
  rcases le_total 0 (binary64.unitExponent double.magnitude) with whole | fractional
  · obtain ⟨places, unit⟩ := Int.eq_ofNat_of_zero_le whole
    rw [unit, zpow_natCast] at split
    exact ⟨significand, places, small, by exact_mod_cast split⟩
  · -- The significand has even more bits than the number.
    obtain ⟨places, unit⟩ := Int.eq_ofNat_of_zero_le (neg_nonneg.mpr fractional)
    rw [← neg_neg (binary64.unitExponent _), unit, zpow_neg, zpow_natCast,
      eq_mul_inv_iff_mul_eq₀ (by positivity)] at split
    have product : number * 2 ^ places = significand := by exact_mod_cast split
    refine fitsDouble_of_natAbs_le (le_trans ?_ small)
    rw [← product, Int.natAbs_mul, natAbs_two_pow]
    exact Nat.le_mul_of_pos_right _ (Nat.two_pow_pos _)

section Integers

private theorem cast_eq_natAbs {number : ℤ} (nonnegative : 0 ≤ number) :
    (number : ℚ) = (number.natAbs : ℚ) := by
  rw [← Int.cast_natCast, Int.natAbs_of_nonneg nonnegative]

private theorem cast_eq_neg_natAbs {number : ℤ} (nonpositive : number ≤ 0) :
    (number : ℚ) = -(number.natAbs : ℚ) := by
  rw [← Int.cast_natCast, ← Int.cast_neg, Int.ofNat_natAbs_of_nonpos nonpositive, neg_neg]

variable {number : ℤ} (bounded : number.natAbs.log2 ≤ 1022)
include bounded

private theorem ofQuotient_natAbs_lt :
    binary64.ofQuotient number.natAbs 1 < 0x8000000000000000 :=
  (ofQuotient_one_lt_infinity bounded).trans (by decide)

theorem isFinite_ofInt : (ofInt number).isFinite = true := by
  rw [isFinite, ofInt, magnitude_ofMagnitude (ofQuotient_natAbs_lt bounded), decide_eq_true_eq]
  exact ofQuotient_one_lt_infinity bounded

theorem value_ofInt :
    (ofInt number).value =
      if number < 0 then -magnitudeValue (binary64.ofQuotient number.natAbs 1)
      else magnitudeValue (binary64.ofQuotient number.natAbs 1) := by
  rw [ofInt, value_ofMagnitude (ofQuotient_natAbs_lt bounded)]
  simp only [decide_eq_true_eq]

/-- The double of an integer is as far from it as the magnitude is from its absolute value. -/
theorem abs_value_ofInt_sub :
    |(ofInt number).value - number| =
      |magnitudeValue (binary64.ofQuotient number.natAbs 1) - number.natAbs| := by
  rw [value_ofInt bounded]
  split
  · rename_i isNegative
    rw [cast_eq_neg_natAbs isNegative.le, neg_sub_neg, abs_sub_comm]
  · rename_i notNegative
    rw [cast_eq_natAbs (not_lt.mp notNegative)]

/-- The double of an integer is nearest to it. -/
theorem isNearest_ofInt : (ofInt number).IsNearest number := by
  refine ⟨isFinite_ofInt bounded, fun other _ => ?_⟩
  have closest := abs_magnitudeValue_ofQuotient_le bounded
  have sameSign := closest other.magnitude
  -- A double of the other sign is farther away than zero.
  have otherSign := (closest (binary64.ofQuotient 0 1)).trans
    (show _ ≤ |magnitudeValue other.magnitude + number.natAbs| by
      have nonneg := magnitudeValue_nonneg other.magnitude
      rw [magnitudeValue_ofQuotient_zero, zero_sub, abs_neg, Nat.abs_cast,
        abs_of_nonneg (by positivity)]
      linarith)
  rw [abs_value_ofInt_sub bounded, value]
  rcases le_total 0 number with nonnegative | nonpositive
  · rw [cast_eq_natAbs nonnegative]
    split
    · rwa [← neg_add', abs_neg]
    · exact sameSign
  · rw [cast_eq_neg_natAbs nonpositive]
    split
    · rwa [neg_sub_neg, abs_sub_comm (_ : ℚ) (magnitudeValue _)]
    · rwa [sub_neg_eq_add]

theorem value_ofInt_of_fitsDouble (fits : FitsDouble number) : (ofInt number).value = number := by
  have exact := magnitudeValue_ofQuotient_of_dvd bounded fits.dvd
  rw [← sub_eq_zero, ← abs_eq_zero, abs_value_ofInt_sub bounded, exact, sub_self, abs_zero]

/-- A nearest double of an integer denotes this very integer exactly if the integer fits. -/
theorem IsNearest.value_eq_iff {double : Binary64} (nearest : double.IsNearest number) :
    double.value = number ↔ FitsDouble number := by
  refine ⟨fitsDouble_of_value_eq, fun fits => ?_⟩
  have near := nearest.closest _ (isFinite_ofInt bounded)
  rw [value_ofInt_of_fitsDouble bounded fits, sub_self, abs_zero] at near
  exact sub_eq_zero.mp (abs_nonpos_iff.mp near)

end Integers

end Binary64

end LearnExport.Number
