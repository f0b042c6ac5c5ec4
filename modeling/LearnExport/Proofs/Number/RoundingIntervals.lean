import LearnExport.Number.Shortest
import LearnExport.Proofs.Number.NearestDouble
import Mathlib.Order.Monotone.Basic

/-!
# The numbers that are rounded to a magnitude

The numbers that are rounded to a magnitude reach from halfway below it to halfway
above it, and where one magnitude's numbers end those of the next begin. The
number in between belongs to the magnitude with an even pattern, so no number is
rounded to two magnitudes.
-/

namespace LearnExport.Number

/-- The next magnitude has the next significand, or the least full one with twice the unit. -/
theorem next_pattern (magnitude : Nat) :
    (binary64.significand (magnitude + 1) = binary64.significand magnitude + 1 ∧
        binary64.unitExponent (magnitude + 1) = binary64.unitExponent magnitude ∧
        (binary64.significand (magnitude + 1) = 4503599627370496 →
          binary64.unitExponent (magnitude + 1) = -1074)) ∨
      (binary64.significand magnitude = 9007199254740991 ∧
        binary64.significand (magnitude + 1) = 4503599627370496 ∧
        binary64.unitExponent (magnitude + 1) = binary64.unitExponent magnitude + 1 ∧
        -1074 < binary64.unitExponent (magnitude + 1)) := by
  by_cases small : magnitude < 4503599627370496
  · obtain ⟨significand, unit⟩ := significand_of_small small
    rcases (show magnitude + 1 ≤ 4503599627370496 from small).lt_or_eq with isLess | isPower
    · obtain ⟨nextSignificand, nextUnit⟩ := significand_of_small isLess
      omega
    · obtain ⟨nextSignificand, nextUnit⟩ := significand_of_pattern 0 isPower.ge (by omega)
      rw [Nat.zero_mul, Nat.zero_add] at nextSignificand nextUnit
      omega
  · obtain ⟨steps, first, rfl, isFull, fits⟩ : ∃ steps first,
        magnitude = steps * 4503599627370496 + first ∧ 4503599627370496 ≤ first ∧
          first < 9007199254740992 :=
      ⟨magnitude / 4503599627370496 - 1, magnitude % 4503599627370496 + 4503599627370496,
        by omega, by omega, by omega⟩
    obtain ⟨significand, unit⟩ := significand_of_pattern steps isFull fits
    rcases (show first + 1 ≤ 9007199254740992 from fits).lt_or_eq with isLess | isPower
    · obtain ⟨nextSignificand, nextUnit⟩ := significand_of_pattern steps (by omega) isLess
      rw [Nat.add_assoc]
      omega
    · have carried : steps * 4503599627370496 + first + 1 =
          (steps + 1) * 4503599627370496 + 4503599627370496 := by omega
      obtain ⟨nextSignificand, nextUnit⟩ := significand_of_pattern (steps + 1) le_rfl (by decide)
      rw [carried]
      omega

/-- The next magnitude is one unit greater, also where the unit changes. -/
theorem magnitudeValue_succ (magnitude : Nat) :
    magnitudeValue (magnitude + 1) =
      magnitudeValue magnitude + (2 : ℚ) ^ binary64.unitExponent magnitude := by
  rw [magnitudeValue_eq, magnitudeValue_eq]
  rcases next_pattern magnitude with ⟨significand, unit, _⟩ | ⟨last, significand, unit, _⟩
  · rw [significand, unit]
    push_cast
    ring
  · rw [last, significand, unit, zpow_add_one₀ (by norm_num)]
    push_cast
    ring

/-- The number halfway between a magnitude and the next greater one. -/
def halfway (magnitude : Nat) : ℚ :=
  magnitudeValue magnitude + (2 : ℚ) ^ binary64.unitExponent magnitude / 2

theorem halfway_strictMono : StrictMono halfway := by
  refine strictMono_nat_of_lt_succ fun magnitude => ?_
  have unit : (0 : ℚ) < 2 ^ binary64.unitExponent magnitude := by positivity
  have nextUnit : (0 : ℚ) < 2 ^ binary64.unitExponent (magnitude + 1) := by positivity
  rw [halfway, halfway, magnitudeValue_succ]
  linarith

namespace Rounded

def lower (number : Rounded) : ℚ :=
  (number.significand - number.below / 4) * 2 ^ number.exponent

def upper (number : Rounded) : ℚ :=
  (number.significand + 1 / 2) * 2 ^ number.exponent

/-- A number is between the bounds, and it is one of them only if the significand is even. -/
structure Encloses (number : Rounded) (value : ℚ) : Prop where
  lower_le : number.lower ≤ value
  le_upper : value ≤ number.upper
  even_of_eq_lower : value = number.lower → number.significand % 2 = 0
  even_of_eq_upper : value = number.upper → number.significand % 2 = 0

theorem upper_ofMagnitude (magnitude : Nat) :
    (ofMagnitude magnitude).upper = halfway magnitude := by
  rw [upper, halfway, magnitudeValue_eq, ofMagnitude]
  ring

/-- Below a power of two the unit is half as great, so the numbers of this magnitude reach only
half as far down as others. -/
theorem lower_ofMagnitude_succ (magnitude : Nat) :
    (ofMagnitude (magnitude + 1)).lower = halfway magnitude := by
  have least : binary64.leastExponent = -1074 := rfl
  rw [lower, halfway, magnitudeValue_eq]
  simp only [ofMagnitude, leadingBit_binary64, least]
  rcases next_pattern magnitude with ⟨significand, unit, isLeast⟩ | ⟨last, significand, unit, above⟩
  · rw [if_neg fun isPower => isPower.2.ne' (isLeast isPower.1), significand, unit]
    push_cast
    ring
  · rw [if_pos ⟨significand, above⟩, last, significand, unit, zpow_add_one₀ (by norm_num)]
    push_cast
    ring

theorem significand_ofMagnitude_mod_two (magnitude : Nat) :
    (ofMagnitude magnitude).significand % 2 = magnitude % 2 := by
  rw [ofMagnitude, BinaryFormat.significand, leadingBit_binary64]
  by_cases small : magnitude < 4503599627370496
  · rw [if_pos small]
  · rw [if_neg small]
    dsimp only
    omega

theorem encloses_zero : (ofMagnitude 0).Encloses 0 := by
  have significand : (ofMagnitude 0).significand = 0 :=
    (significand_of_small (by decide : (0 : ℕ) < 4503599627370496)).1
  have unit : (0 : ℚ) < 2 ^ (ofMagnitude 0).exponent := by positivity
  refine ⟨?_, ?_, fun _ => by rw [significand], fun _ => by rw [significand]⟩
  · rw [lower, significand, Nat.cast_zero, zero_sub]
    exact mul_nonpos_of_nonpos_of_nonneg (neg_nonpos.mpr (by positivity)) unit.le
  · rw [upper]
    positivity

/-- No number is rounded to two magnitudes. -/
theorem eq_of_encloses {first second : Nat} {value : ℚ}
    (inFirst : (ofMagnitude first).Encloses value)
    (inSecond : (ofMagnitude second).Encloses value) : first = second := by
  wlog ordered : first < second generalizing first second
  · rcases (not_lt.mp ordered).lt_or_eq with less | same
    · exact (this inSecond inFirst less).symm
    · exact same.symm
  obtain ⟨before, rfl⟩ : ∃ before, second = before + 1 := ⟨second - 1, by omega⟩
  have atMost := inFirst.le_upper
  have atLeast := inSecond.lower_le
  rw [upper_ofMagnitude] at atMost
  rw [lower_ofMagnitude_succ] at atLeast
  obtain rfl : first = before := halfway_strictMono.injective
    (le_antisymm (halfway_strictMono.monotone (Nat.le_of_lt_succ ordered)) (atLeast.trans atMost))
  have isBound : value = halfway first := le_antisymm atMost atLeast
  -- Of two neighbours only one has an even pattern.
  have firstEven := inFirst.even_of_eq_upper (isBound.trans (upper_ofMagnitude first).symm)
  have secondEven := inSecond.even_of_eq_lower (isBound.trans (lower_ofMagnitude_succ first).symm)
  rw [significand_ofMagnitude_mod_two] at firstEven secondEven
  omega

end Rounded

end LearnExport.Number
