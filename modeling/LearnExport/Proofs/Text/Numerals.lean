import LearnExport.Text.Ascii
import Mathlib.Algebra.Group.Nat.Defs

/-!
# Numerals

The decimal text of a number is read back as the number, with leading zeros or
without. Its characters are digits, so it ends where something else than a
digit follows.
-/

namespace LearnExport.Text

theorem digit?_eq_some_of_isDigit {character : Char} (isDigit : character.isDigit = true) :
    digit? character = some (character.toNat - '0'.toNat) := by
  have inRange : '0' ≤ character ∧ character ≤ '9' := by
    simpa [Char.isDigit, Char.le_def] using isDigit
  rw [digit?, if_pos inRange]

theorem isSome_digit? (character : Char) : (digit? character).isSome = character.isDigit := by
  rw [digit?, apply_ite Option.isSome, Char.isDigit]
  simp [Char.le_def]

theorem numeralFrom_eq_ofDigitChars {digits : List Char} (value : Nat)
    (areDigits : ∀ character ∈ digits, character.isDigit = true) :
    numeralFrom digit? 10 value digits = some (Nat.ofDigitChars 10 digits value) := by
  induction digits generalizing value with
  | nil => rfl
  | cons character others ih =>
      obtain ⟨isDigit, areOthers⟩ := List.forall_mem_cons.mp areDigits
      rw [numeralFrom, digit?_eq_some_of_isDigit isDigit, Nat.ofDigitChars_cons]
      exact ih _ areOthers

theorem isDigit_of_mem_decimal {number : Nat} {character : Char}
    (member : character ∈ decimal number) : character.isDigit = true :=
  Nat.isDigit_of_mem_toDigits (by decide) (by decide) member

theorem decimal_ne_nil (number : Nat) : decimal number ≠ [] :=
  Nat.toDigits_ne_nil

theorem numeral?_decimal (number : Nat) : numeral? (decimal number) = some number := by
  have read : numeralFrom digit? 10 0 (decimal number) = some number := by
    rw [numeralFrom_eq_ofDigitChars 0 fun _ => isDigit_of_mem_decimal, decimal,
      Nat.ofDigitChars_ten_toDigits]
  cases digits : decimal number with
  | nil => exact absurd digits (decimal_ne_nil number)
  | cons first others =>
      rw [digits] at read
      exact read

theorem decimal_inj {first second : Nat} : decimal first = decimal second ↔ first = second := by
  refine ⟨fun same => ?_, congrArg decimal⟩
  have read := numeral?_decimal first
  rw [same, numeral?_decimal, Option.some.injEq] at read
  exact read.symm

theorem integer_inj {first second : Int} : integer first = integer second ↔ first = second := by
  refine ⟨fun same => ?_, congrArg integer⟩
  have noMinus (number : Nat) (text : List Char) : decimal number ≠ '-' :: text := by
    intro minus
    have member : '-' ∈ decimal number := minus ▸ List.mem_cons_self
    exact absurd (isDigit_of_mem_decimal member) (by decide)
  cases first with
  | ofNat number =>
      cases second with
      | ofNat other => rw [decimal_inj.mp same]
      | negSucc other => exact absurd same (noMinus number _)
  | negSucc number =>
      cases second with
      | ofNat other => exact absurd same.symm (noMinus other _)
      | negSucc other =>
          rw [Nat.succ_inj.mp (decimal_inj.mp (List.cons.inj same).2)]

/-- A number has as many digits as powers of ten that it reaches. -/
theorem ten_pow_le_of_length {number : Nat} (positive : number ≠ 0) :
    10 ^ ((decimal number).length - 1) ≤ number := by
  by_cases single : (decimal number).length ≤ 1
  · rw [Nat.sub_eq_zero_of_le single, pow_zero]
    exact Nat.one_le_iff_ne_zero.mpr positive
  · refine Nat.le_of_not_lt fun exceeds => ?_
    have fewer : (decimal number).length ≤ (decimal number).length - 1 :=
      (Nat.length_toDigits_le_iff (by decide) (by omega)).mpr exceeds
    omega

section Padding

variable {width number : Nat}

theorem isDigit_of_mem_zeros {count : Nat} {character : Char}
    (member : character ∈ List.replicate count '0') : character.isDigit = true := by
  rw [List.eq_of_mem_replicate member]
  decide

theorem isDigit_of_mem_paddedDecimal {character : Char}
    (member : character ∈ paddedDecimal width number) : character.isDigit = true := by
  rcases List.mem_append.mp member with isZero | isDigit
  · exact isDigit_of_mem_zeros isZero
  · exact isDigit_of_mem_decimal isDigit

theorem ofDigitChars_paddedDecimal (width number : Nat) :
    Nat.ofDigitChars 10 (paddedDecimal width number) 0 = number := by
  rw [paddedDecimal, Nat.ofDigitChars_append, Nat.ofDigitChars_replicate_zero, Nat.mul_zero,
    decimal, Nat.ofDigitChars_ten_toDigits]

theorem length_paddedDecimal (positive : 0 < width) (fits : number < 10 ^ width) :
    (paddedDecimal width number).length = width := by
  have digits : (decimal number).length ≤ width :=
    (Nat.length_toDigits_le_iff (by decide) positive).mpr fits
  simp only [paddedDecimal, List.length_append, List.length_replicate]
  omega

/-- A text that does not begin with a digit. -/
def EndsNumeral (text : List Char) : Prop :=
  ∀ character ∈ text.head?, character.isDigit = false

theorem takeWhile_isDigit_append {digits rest : List Char}
    (areDigits : ∀ character ∈ digits, character.isDigit = true) (ends : EndsNumeral rest) :
    (digits ++ rest).takeWhile Char.isDigit = digits := by
  rw [List.takeWhile_append_of_pos areDigits]
  cases rest with
  | nil => simp
  | cons character others => simp [ends character rfl]

/-- Numerals of one width are told apart in front of something that is no digit, as is what
follows them. -/
theorem paddedDecimal_append_inj {other : Nat} {rest others : List Char}
    (ends : EndsNumeral rest) (otherEnds : EndsNumeral others)
    (same : paddedDecimal width number ++ rest = paddedDecimal width other ++ others) :
    number = other ∧ rest = others := by
  have sameDigits : paddedDecimal width number = paddedDecimal width other := by
    rw [← takeWhile_isDigit_append (fun _ => isDigit_of_mem_paddedDecimal) ends, same,
      takeWhile_isDigit_append (fun _ => isDigit_of_mem_paddedDecimal) otherEnds]
  have sameNumber := congrArg (Nat.ofDigitChars 10 · 0) sameDigits
  simp only [ofDigitChars_paddedDecimal] at sameNumber
  rw [sameDigits] at same
  exact ⟨sameNumber, List.append_cancel_left same⟩

end Padding

end LearnExport.Text
