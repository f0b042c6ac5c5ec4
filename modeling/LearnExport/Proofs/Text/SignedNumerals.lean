import LearnExport.Proofs.Text.Numerals

/-!
# Numerals with a sign

A numeral is one or more digits; leading zeros change nothing about the number it
denotes. A count may have a plus sign in front, and an integer a sign of either
kind. A sign alone denotes nothing, and neither does a text with any other
character.
-/

namespace LearnExport.Text

/-- That a text is one or more decimal digits, and which number they denote. -/
def IsNumeral (text : List Char) (number : Nat) : Prop :=
  text ≠ [] ∧ (∀ character ∈ text, character.isDigit = true) ∧ Nat.ofDigitChars 10 text 0 = number

/-- That a text is a numeral, perhaps after a plus sign. -/
inductive IsCount : List Char → Nat → Prop
  | unsigned {digits : List Char} {number : Nat} :
      IsNumeral digits number → IsCount digits number
  | plus {digits : List Char} {number : Nat} :
      IsNumeral digits number → IsCount ('+' :: digits) number

/-- That a text is a numeral, perhaps after a sign. -/
inductive IsInteger : List Char → Int → Prop
  | count {text : List Char} {number : Nat} : IsCount text number → IsInteger text number
  | minus {digits : List Char} {number : Nat} :
      IsNumeral digits number → IsInteger ('-' :: digits) (-number)

variable {text : List Char} {number : Nat}

theorem digit?_eq_none_of_not_isDigit {character : Char} (notDigit : character.isDigit = false) :
    digit? character = none := by
  apply Option.not_isSome_iff_eq_none.mp
  simp [isSome_digit?, notDigit]

theorem numeralFrom_eq_some_iff {value : Nat} :
    numeralFrom digit? 10 value text = some number ↔
      (∀ character ∈ text, character.isDigit = true) ∧
        Nat.ofDigitChars 10 text value = number := by
  constructor
  · intro read
    have areDigits : ∀ character ∈ text, character.isDigit = true := by
      induction text generalizing value with
      | nil => exact fun _ member => absurd member List.not_mem_nil
      | cons first others ih =>
          cases isDigit : first.isDigit with
          | false => simp [numeralFrom, digit?_eq_none_of_not_isDigit isDigit] at read
          | true =>
              rw [numeralFrom, digit?_eq_some_of_isDigit isDigit] at read
              exact List.forall_mem_cons.mpr ⟨isDigit, ih read⟩
    rw [numeralFrom_eq_ofDigitChars value areDigits, Option.some.injEq] at read
    exact ⟨areDigits, read⟩
  · rintro ⟨areDigits, rfl⟩
    exact numeralFrom_eq_ofDigitChars value areDigits

theorem numeral?_eq_some_iff : numeral? text = some number ↔ IsNumeral text number := by
  cases text with
  | nil => simp [numeral?, IsNumeral]
  | cons first others =>
      rw [numeral?, numeralFrom_eq_some_iff, IsNumeral]
      · simp
      · simp

namespace IsNumeral

theorem exists_cons (isNumeral : IsNumeral text number) :
    ∃ first others, text = first :: others ∧ first.isDigit = true := by
  obtain ⟨notEmpty, areDigits, _⟩ := isNumeral
  obtain ⟨first, others, rfl⟩ := List.exists_cons_of_ne_nil notEmpty
  exact ⟨first, others, rfl, areDigits first List.mem_cons_self⟩

/-- A numeral has no sign. -/
theorem ne_cons {sign : Char} {others : List Char} (notDigit : sign.isDigit = false) :
    ¬ IsNumeral (sign :: others) number := by
  intro isNumeral
  have isDigit := isNumeral.2.1 sign List.mem_cons_self
  exact absurd (notDigit.symm.trans isDigit) (by decide)

end IsNumeral

namespace IsCount

theorem exists_digit (isCount : IsCount text number) :
    ∃ character ∈ text, character.isDigit = true := by
  cases isCount with
  | unsigned isNumeral =>
      obtain ⟨first, others, rfl, isDigit⟩ := isNumeral.exists_cons
      exact ⟨first, List.mem_cons_self, isDigit⟩
  | plus isNumeral =>
      obtain ⟨first, others, rfl, isDigit⟩ := isNumeral.exists_cons
      exact ⟨first, List.mem_cons_of_mem _ List.mem_cons_self, isDigit⟩

theorem isDigit_or_plus (isCount : IsCount text number) {character : Char}
    (member : character ∈ text) : character.isDigit = true ∨ character = '+' := by
  cases isCount with
  | unsigned isNumeral => exact .inl (isNumeral.2.1 character member)
  | plus isNumeral =>
      rcases List.mem_cons.mp member with isPlus | isLater
      · exact .inr isPlus
      · exact .inl (isNumeral.2.1 character isLater)

end IsCount

namespace IsInteger

variable {integer : Int}

theorem exists_digit (isInteger : IsInteger text integer) :
    ∃ character ∈ text, character.isDigit = true := by
  cases isInteger with
  | count isCount => exact isCount.exists_digit
  | minus isNumeral =>
      obtain ⟨first, others, rfl, isDigit⟩ := isNumeral.exists_cons
      exact ⟨first, List.mem_cons_of_mem _ List.mem_cons_self, isDigit⟩

theorem isDigit_or_sign (isInteger : IsInteger text integer) {character : Char}
    (member : character ∈ text) :
    character.isDigit = true ∨ character = '+' ∨ character = '-' := by
  cases isInteger with
  | count isCount => exact (isCount.isDigit_or_plus member).imp_right .inl
  | minus isNumeral =>
      rcases List.mem_cons.mp member with isMinus | isLater
      · exact .inr (.inr isMinus)
      · exact .inl (isNumeral.2.1 character isLater)

end IsInteger

end LearnExport.Text
