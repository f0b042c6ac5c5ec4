import LearnExport.Number.Layout
import LearnExport.Number.Literal
import LearnExport.Proofs.Number.ShortestDecimal

/-!
# The text of a double determines it

Wherever a row puts the point of a number, and with or without an exponent, its text
is a literal of the number's shortest decimal. The double is the only one that this
decimal is rounded to, so no two finite doubles have the same text.
-/

namespace LearnExport.Number

open Text

namespace Literal

/-- The number that a text without a sign is read as. -/
def Denotes (text : List Char) (value : ℚ) : Prop :=
  ∃ digits exponent, number? false text = some (.decimal false digits exponent) ∧
    value = digits * 10 ^ exponent

theorem Denotes.unique {text : List Char} {first second : ℚ} (isFirst : Denotes text first)
    (isSecond : Denotes text second) : first = second := by
  obtain ⟨digits, exponent, read, rfl⟩ := isFirst
  obtain ⟨otherDigits, otherExponent, otherRead, rfl⟩ := isSecond
  rw [read] at otherRead
  cases otherRead
  rfl

section Reading

variable {whole fraction rest : List Char} {exponent : ℤ}

theorem splitDigits_append (areDigits : ∀ character ∈ whole, character.isDigit = true)
    (ends : EndsNumeral rest) : splitDigits (whole ++ rest) = (whole, rest) := by
  have taken := takeWhile_isDigit_append areDigits ends
  have parts := List.takeWhile_append_dropWhile (p := Char.isDigit) (l := whole ++ rest)
  rw [taken] at parts
  simp only [splitDigits, isSome_digit?]
  rw [taken, List.append_cancel_left parts]

theorem digitsValue_eq (areDigits : ∀ character ∈ whole, character.isDigit = true) :
    digitsValue whole = Nat.ofDigitChars 10 whole 0 := by
  cases whole with
  | nil => rfl
  | cons first others =>
      change (numeralFrom digit? 10 0 (first :: others)).getD 0 = _
      rw [numeralFrom_eq_ofDigitChars 0 areDigits, Option.getD_some]

theorem number?_point (areWhole : ∀ character ∈ whole, character.isDigit = true)
    (areFraction : ∀ character ∈ fraction, character.isDigit = true) (written : whole ≠ [])
    (ends : EndsNumeral rest) (isExponent : exponent? rest = some exponent) (negative : Bool) :
    number? negative (whole ++ '.' :: (fraction ++ rest)) =
      some (.decimal negative (Nat.ofDigitChars 10 (whole ++ fraction) 0)
        (exponent - fraction.length)) := by
  have point : EndsNumeral ('.' :: (fraction ++ rest)) := by simp [EndsNumeral]
  have areDigits : ∀ character ∈ whole ++ fraction, character.isDigit = true :=
    List.forall_mem_append.mpr ⟨areWhole, areFraction⟩
  simp [number?, splitDigits_append areWhole point, splitDigits_append areFraction ends, written,
    isExponent, digitsValue_eq areDigits]

theorem number?_exponent (areWhole : ∀ character ∈ whole, character.isDigit = true)
    (written : whole ≠ []) (isExponent : exponent? ('e' :: rest) = some exponent)
    (negative : Bool) :
    number? negative (whole ++ 'e' :: rest) =
      some (.decimal negative (Nat.ofDigitChars 10 whole 0) exponent) := by
  have mark : EndsNumeral ('e' :: rest) := by simp [EndsNumeral]
  simp [number?, splitDigits_append areWhole mark, written, isExponent, digitsValue_eq areWhole]

theorem exponent?_signed (exponent : ℤ) :
    exponent? ('e' :: (if exponent < 0 then '-' else '+') :: Text.decimal exponent.natAbs) =
      some exponent := by
  have read := numeral?_decimal exponent.natAbs
  by_cases negative : exponent < 0
  · simp [exponent?, splitSign, negative, read, abs_of_neg negative]
  · simp [exponent?, splitSign, negative, read, abs_of_nonneg (not_lt.mp negative)]

end Reading

end Literal

/-- The number of some digits with the point after the first `whole` of them. -/
def placedValue (digits : List Char) (whole : ℤ) : ℚ :=
  Nat.ofDigitChars 10 digits 0 * 10 ^ (whole - digits.length)

/-- Zeros after the digits are digits of the same number. -/
theorem placedValue_append_zeros (digits : List Char) (count : Nat) (whole : ℤ) :
    placedValue (digits ++ List.replicate count '0') whole = placedValue digits whole := by
  have exponent : whole - digits.length = count + (whole - (digits.length + count : ℕ)) := by
    push_cast
    ring
  rw [placedValue, placedValue, Nat.ofDigitChars_append, Nat.ofDigitChars_replicate_zero,
    List.length_append, List.length_replicate, exponent, zpow_add₀ (by norm_num), zpow_natCast]
  push_cast
  ring

/-- Zeros before the digits move the point. -/
theorem placedValue_zeros_append (count : Nat) (digits : List Char) (whole : ℤ) :
    placedValue (List.replicate count '0' ++ digits) whole =
      placedValue digits (whole - count) := by
  have exponent : whole - (count + digits.length : ℕ) = whole - count - digits.length := by
    push_cast
    ring
  rw [placedValue, placedValue, Nat.ofDigitChars_append, Nat.ofDigitChars_replicate_zero, mul_zero,
    List.length_append, List.length_replicate, exponent]

theorem denotes_point (whole fraction : List Char)
    (areWhole : ∀ character ∈ whole, character.isDigit = true)
    (areFraction : ∀ character ∈ fraction, character.isDigit = true) (written : whole ≠ []) :
    Literal.Denotes (whole ++ '.' :: fraction) (placedValue (whole ++ fraction) whole.length) := by
  have ends : EndsNumeral [] := by simp [EndsNumeral]
  have read := Literal.number?_point areWhole areFraction written ends rfl false
  rw [List.append_nil] at read
  refine ⟨_, _, read, ?_⟩
  have exponent : (whole.length : ℤ) - (whole ++ fraction).length = 0 - fraction.length := by
    rw [List.length_append]
    omega
  rw [placedValue, exponent]

namespace Layout

section Shapes

variable {digits : List Char} (areDigits : ∀ character ∈ digits, character.isDigit = true)
  (written : digits ≠ [])
include areDigits written

/-- Wherever the point stands, it is read as a number of the given digits. -/
theorem denotes_positional (whole : ℤ) :
    Literal.Denotes (row.positional digits whole) (placedValue digits whole) := by
  unfold positional
  split
  · rename_i isWhole
    obtain ⟨count, places⟩ : ∃ count : ℕ, whole = digits.length + count :=
      ⟨(whole - digits.length).toNat, by omega⟩
    have zeros : (whole - digits.length).toNat = count := by omega
    have read := denotes_point (digits ++ List.replicate count '0') ['0']
      (List.forall_mem_append.mpr ⟨areDigits, fun _ => isDigit_of_mem_zeros⟩)
      (List.forall_mem_singleton.mpr rfl)
      (List.append_ne_nil_of_left_ne_nil written _)
    have lastZero : digits ++ List.replicate count '0' ++ ['0'] =
        digits ++ List.replicate (count + 1) '0' := by
      rw [List.append_assoc, List.replicate_succ']
    rw [lastZero, placedValue_append_zeros, List.length_append, List.length_replicate,
      Nat.cast_add, ← places] at read
    rw [zeros]
    exact read
  · split
    · rename_i exceeds positive
      have read := denotes_point (digits.take whole.toNat) (digits.drop whole.toNat)
        (fun _ member => areDigits _ (List.mem_of_mem_take member))
        (fun _ member => areDigits _ (List.mem_of_mem_drop member))
        (by simp [written, positive])
      have places : ((digits.take whole.toNat).length : ℤ) = whole := by
        rw [List.length_take]
        omega
      rwa [List.take_append_drop, places] at read
    · rename_i notPositive
      have read := denotes_point ['0'] (List.replicate (-whole).toNat '0' ++ digits)
        (List.forall_mem_singleton.mpr rfl)
        (List.forall_mem_append.mpr ⟨fun _ => isDigit_of_mem_zeros, areDigits⟩)
        (List.cons_ne_nil _ _)
      have zeros : ['0'] ++ (List.replicate (-whole).toNat '0' ++ digits) =
          List.replicate ((-whole).toNat + 1) '0' ++ digits := rfl
      have places : (['0'].length : ℤ) - ((-whole).toNat + 1 : ℕ) = whole := by
        simp
        omega
      rw [zeros, placedValue_zeros_append, places] at read
      exact read

theorem denotes_scientific (leading : ℤ) :
    Literal.Denotes (scientific digits leading) (placedValue digits (leading + 1)) := by
  obtain ⟨first, others, rfl⟩ := List.exists_cons_of_ne_nil written
  obtain ⟨isFirst, areOthers⟩ := List.forall_mem_cons.mp areDigits
  have areFirst : ∀ character ∈ [first], character.isDigit = true := by simpa using isFirst
  have isExponent := Literal.exponent?_signed leading
  cases others with
  | nil =>
      refine ⟨_, _, Literal.number?_exponent areFirst (List.cons_ne_nil _ _) isExponent false, ?_⟩
      simp [placedValue]
  | cons second others =>
      have read := Literal.number?_point areFirst areOthers (List.cons_ne_nil _ _)
        (by simp [EndsNumeral]) isExponent false
      have text : scientific (first :: second :: others) leading =
          [first] ++ '.' :: (second :: others ++
            'e' :: (if leading < 0 then '-' else '+') :: Text.decimal leading.natAbs) := by
        simp [scientific]
      rw [← text] at read
      refine ⟨_, _, read, ?_⟩
      have places : leading + 1 - (first :: second :: others).length =
          leading - (second :: others).length := by
        simp only [List.length_cons]
        omega
      rw [placedValue, places]
      rfl

end Shapes

/-- The digits of a number without the zeros at their end, and these zeros. -/
theorem exists_eq_append_zeros (digits : List Char) : ∃ count,
    digits = (digits.reverse.dropWhile (· == '0')).reverse ++ List.replicate count '0' := by
  refine ⟨(digits.reverse.takeWhile (· == '0')).length, ?_⟩
  have zeros : digits.reverse.takeWhile (· == '0') =
      List.replicate (digits.reverse.takeWhile (· == '0')).length '0' :=
    List.eq_replicate_of_mem fun character member =>
      beq_iff_eq.mp (List.all_eq_true.mp List.all_takeWhile character member)
  rw [← List.reverse_replicate, ← zeros, ← List.reverse_append, List.takeWhile_append_dropWhile,
    List.reverse_reverse]

/-- Those zeros are not all the digits of a number that is not zero itself. -/
theorem exists_significant_digits {number : Nat} (nonzero : number ≠ 0) : ∃ digits count,
    digits = ((Text.decimal number).reverse.dropWhile (· == '0')).reverse ∧
      Text.decimal number = digits ++ List.replicate count '0' ∧
      (∀ character ∈ digits, character.isDigit = true) ∧ digits ≠ [] := by
  obtain ⟨count, split⟩ := exists_eq_append_zeros (Text.decimal number)
  refine ⟨_, count, rfl, split, fun character member => ?_, fun empty => ?_⟩
  · have isWritten : character ∈ Text.decimal number := by
      rw [split]
      exact List.mem_append_left _ member
    exact isDigit_of_mem_decimal isWritten
  · have read : Nat.ofDigitChars 10 (Text.decimal number) 0 = number :=
      Nat.ofDigitChars_ten_toDigits
    rw [split, empty, List.nil_append, Nat.ofDigitChars_replicate_zero, mul_zero] at read
    exact nonzero read.symm

theorem denotes_decimal {number : Decimal} (nonzero : number.digits ≠ 0) :
    Literal.Denotes (row.decimal number) number.value := by
  obtain ⟨digits, count, isDigits, split, areDigits, written⟩ := exists_significant_digits nonzero
  obtain ⟨whole, isWhole⟩ : ∃ whole,
      whole = number.exponent + (Text.decimal number.digits).length := ⟨_, rfl⟩
  have value : number.value = placedValue digits whole := by
    rw [← placedValue_append_zeros digits count, ← split, placedValue, isWhole,
      add_sub_cancel_right, Text.decimal, Nat.ofDigitChars_ten_toDigits, Decimal.value]
  have text : row.decimal number =
      if -5 ≤ whole - 1 ∧ whole - 1 ≤ 15 then row.positional digits whole
      else scientific digits (whole - 1) := by
    rw [isWhole, isDigits]
    rfl
  rw [value, text]
  split
  · exact denotes_positional areDigits written whole
  · have read := denotes_scientific areDigits written (whole - 1)
    rwa [sub_add_cancel] at read

/-- The text of a magnitude is read as a number that is rounded to this magnitude. -/
theorem denotes_magnitude (magnitude : Nat) : ∃ value,
    Literal.Denotes (row.magnitude magnitude) value ∧
      (Rounded.ofMagnitude magnitude).Encloses value := by
  rcases Nat.eq_zero_or_pos magnitude with rfl | positive
  · have zero : placedValue ['0'] 1 = 0 := by simp [placedValue, Nat.ofDigitChars_cons]
    refine ⟨placedValue ['0'] 1, ?_, zero ▸ Rounded.encloses_zero⟩
    rw [Layout.magnitude, if_pos rfl]
    exact denotes_positional (List.forall_mem_singleton.mpr rfl) (List.cons_ne_nil _ _) 1
  · have encloses := Rounded.encloses_shortest positive row.tie
    refine ⟨_, ?_, encloses⟩
    rw [Layout.magnitude, if_neg positive.ne']
    refine denotes_decimal fun zero => positive.ne' ?_
    rw [Decimal.value, zero, Nat.cast_zero, zero_mul] at encloses
    exact Rounded.eq_of_encloses encloses Rounded.encloses_zero

theorem row_magnitude_inj {first second : Nat} :
    row.magnitude first = row.magnitude second ↔ first = second := by
  refine ⟨fun same => ?_, congrArg row.magnitude⟩
  obtain ⟨value, read, inFirst⟩ := denotes_magnitude first
  obtain ⟨otherValue, otherRead, inSecond⟩ := denotes_magnitude second
  rw [same] at read
  rw [← read.unique otherRead] at inSecond
  exact Rounded.eq_of_encloses inFirst inSecond

end Layout

/-- A sign is no part of the text of a magnitude. -/
theorem Literal.not_denotes_minus (text : List Char) (value : ℚ) :
    ¬Denotes ('-' :: text) value := by
  rintro ⟨digits, exponent, read, _⟩
  simp [number?, splitDigits, isSome_digit?, Char.isDigit] at read

theorem Binary64.ext_of_magnitude {first second : Binary64}
    (sameSign : first.isNegative = second.isNegative)
    (sameMagnitude : first.magnitude = second.magnitude) : first = second := by
  obtain ⟨firstBits⟩ := first
  obtain ⟨secondBits⟩ := second
  have signBit : (0x8000000000000000 : UInt64).toNat = 0x8000000000000000 := rfl
  have firstBound := firstBits.toNat_lt
  have secondBound := secondBits.toNat_lt
  simp only [isNegative, magnitude, decide_eq_decide, UInt64.le_iff_toNat_le, signBit] at *
  have sameBits : firstBits.toNat = secondBits.toNat := by omega
  rw [UInt64.toNat_inj.mp sameBits]

/-- Finite doubles are told apart by their texts in a row, the zeros by their signs. -/
theorem Layout.row_double_inj {first second : Binary64} (isFinite : first.isFinite = true)
    (otherFinite : second.isFinite = true) :
    row.double first = row.double second ↔ first = second := by
  refine ⟨fun same => ?_, congrArg row.double⟩
  have noMinus (magnitude : Nat) (text : List Char) : row.magnitude magnitude ≠ '-' :: text := by
    intro minus
    obtain ⟨value, read, _⟩ := denotes_magnitude magnitude
    rw [minus] at read
    exact Literal.not_denotes_minus text value read
  simp only [double, if_pos isFinite, if_pos otherFinite] at same
  cases sign : first.isNegative <;> cases otherSign : second.isNegative <;>
    simp only [sign, otherSign, if_true, Bool.false_eq_true, if_false, List.nil_append,
      List.cons_append] at same
  · exact Binary64.ext_of_magnitude (sign.trans otherSign.symm) (row_magnitude_inj.mp same)
  · exact absurd same (noMinus _ _)
  · exact absurd same.symm (noMinus _ _)
  · exact Binary64.ext_of_magnitude (sign.trans otherSign.symm)
      (row_magnitude_inj.mp (List.cons.inj same).2)

end LearnExport.Number
