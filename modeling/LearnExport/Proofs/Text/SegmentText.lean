import LearnExport.Proofs.Text.FormEncoding
import LearnExport.Proofs.Text.Utf8Strictness

/-!
# The text of a path segment

A segment stands for bytes, character by character: a percent sign with two
hexadecimal digits is the byte that these digits number, and everything else is
itself, a percent sign without two such digits included. A segment has a text if
these bytes are the ones that a text is written as; then it has only this text.
-/

namespace LearnExport.Text

/-- That a text begins with two hexadecimal digits. -/
def BeginsWithDigits (text : List Char) : Prop :=
  ∃ highDigit lowDigit high low rest, IsHexDigit highDigit high ∧ IsHexDigit lowDigit low ∧
    text = high :: low :: rest

/-- The bytes that a segment stands for. -/
inductive StandsForBytes : List Char → List UInt8 → Prop
  | nil : StandsForBytes [] []
  | escaped {highDigit lowDigit : Nat} {high low : Char} {rest : List Char} {bytes : List UInt8} :
      IsHexDigit highDigit high → IsHexDigit lowDigit low → StandsForBytes rest bytes →
      StandsForBytes ('%' :: high :: low :: rest)
        (UInt8.ofNat (16 * highDigit + lowDigit) :: bytes)
  | percent {rest : List Char} {bytes : List UInt8} :
      ¬ BeginsWithDigits rest → StandsForBytes rest bytes →
      StandsForBytes ('%' :: rest) (0x25 :: bytes)
  | plain {character : Char} {rest : List Char} {bytes : List UInt8} :
      character ≠ '%' → StandsForBytes rest bytes →
      StandsForBytes (character :: rest) (String.utf8EncodeChar character ++ bytes)

/-- That a segment stands for the bytes of a text. -/
def StandsFor (segment text : List Char) : Prop :=
  StandsForBytes segment (utf8Bytes text)

section Digits

variable {value : Nat}

theorem IsHexDigit.lt {character : Char} (isDigit : IsHexDigit value character) : value < 16 := by
  rcases isDigit with isLower | isUpper
  · exact (List.getElem?_eq_some_iff.mp isLower).1
  · exact (List.getElem?_eq_some_iff.mp isUpper).1

theorem toNat_lt_of_hexDigit? {character : Char} (isValue : hexDigit? character = some value) :
    character.toNat < 128 := by
  have below {last : Char} (isAscii : last.toNat < 128) (atMost : character ≤ last) :
      character.toNat < 128 :=
    Nat.lt_of_le_of_lt (UInt32.le_iff_toNat_le.mp atMost) isAscii
  unfold hexDigit? at isValue
  split_ifs at isValue with isDecimal isLower isUpper
  · exact below (by decide) isDecimal.2
  · exact below (by decide) isLower.2
  · exact below (by decide) isUpper.2

theorem isHexDigit_iff {character : Char} :
    IsHexDigit value character ↔ hexDigit? character = some value := by
  refine ⟨IsHexDigit.hexDigit?_eq, fun isValue => ?_⟩
  have ofAscii : ∀ number < 128, ∀ value ∈ hexDigit? (Char.ofNat number),
      "0123456789abcdef".toList[value]? = some (Char.ofNat number) ∨
        "0123456789ABCDEF".toList[value]? = some (Char.ofNat number) := by
    decide +kernel
  have found := ofAscii character.toNat (toNat_lt_of_hexDigit? isValue) value
  rw [Char.ofNat_toNat] at found
  exact found isValue

theorem ascii_of_hexByte? {byte : UInt8} (isDigit : hexByte? byte = some value) : byte < 0x80 := by
  have isByte : byte.toNat < 256 := byte.toNat_lt
  have number : (Char.ofNat byte.toNat).toNat = byte.toNat := val_ofNat (.inl (by omega))
  rw [UInt8.lt_iff_toNat_lt, ← number]
  exact toNat_lt_of_hexDigit? isDigit

end Digits

section Bytes

variable {text : List Char}

theorem utf8Bytes_cons (character : Char) (rest : List Char) :
    utf8Bytes (character :: rest) = String.utf8EncodeChar character ++ utf8Bytes rest :=
  List.flatMap_cons

/-- A byte of ASCII is a character by itself. -/
theorem exists_eq_cons_of_utf8Bytes {byte : UInt8} {bytes : List UInt8} (isAscii : byte < 0x80)
    (written : utf8Bytes text = byte :: bytes) :
    ∃ rest, text = Char.ofNat byte.toNat :: rest ∧ utf8Bytes rest = bytes := by
  have decoded := decodeUtf8_utf8Bytes text
  rw [written, decodeUtf8, if_pos isAscii] at decoded
  cases text with
  | nil => exact absurd decoded (by simp)
  | cons character rest =>
      obtain ⟨isCharacter, isRest⟩ := List.cons.inj decoded
      refine ⟨rest, by rw [Option.some.inj isCharacter], ?_⟩
      exact (eq_utf8Bytes_of_decodeUtf8 isRest).symm

theorem percentDecode_percent (noDigits : ¬ BeginsWithDigits text) :
    percentDecode (0x25 :: utf8Bytes text) = 0x25 :: percentDecode (utf8Bytes text) := by
  have noPair {high low : UInt8} {others : List UInt8} {highDigit lowDigit : Nat}
      (written : utf8Bytes text = high :: low :: others)
      (isHigh : hexByte? high = some highDigit) : hexByte? low ≠ some lowDigit := by
    intro isLow
    obtain ⟨rest, rfl, writtenRest⟩ :=
      exists_eq_cons_of_utf8Bytes (ascii_of_hexByte? isHigh) written
    obtain ⟨more, rfl, _⟩ := exists_eq_cons_of_utf8Bytes (ascii_of_hexByte? isLow) writtenRest
    exact noDigits ⟨highDigit, lowDigit, _, _, more, isHexDigit_iff.mpr isHigh,
      isHexDigit_iff.mpr isLow, rfl⟩
  rw [percentDecode.eq_def]
  simp only [if_true]
  split
  · rename_i high low others written
    split
    · rename_i isHigh isLow
      exact absurd isLow (noPair written isHigh)
    · rw [written]
  · rename_i written
    rw [written]
  · rename_i written
    rw [written]
    rfl

theorem percentDecode_utf8Bytes_escaped {highDigit lowDigit : Nat} {high low : Char}
    (isHigh : IsHexDigit highDigit high) (isLow : IsHexDigit lowDigit low) (rest : List Char) :
    percentDecode (utf8Bytes ('%' :: high :: low :: rest)) =
      UInt8.ofNat (16 * highDigit + lowDigit) :: percentDecode (utf8Bytes rest) := by
  have percent : String.utf8EncodeChar '%' = [0x25] := rfl
  have isByte := toNat_byte (show 16 * highDigit + lowDigit < 256 from by
    have highBound := isHigh.lt
    have lowBound := isLow.lt
    omega)
  rw [utf8Bytes_cons, utf8Bytes_cons, utf8Bytes_cons, percent,
    utf8EncodeChar_of_lt isHigh.ascii_and_ne_plus.1,
    utf8EncodeChar_of_lt isLow.ascii_and_ne_plus.1]
  exact percentDecode_escaped isHigh.hexByte?_eq isLow.hexByte?_eq isByte _

end Bytes

theorem StandsForBytes.percentDecode_eq {segment : List Char} {bytes : List UInt8}
    (standsFor : StandsForBytes segment bytes) : percentDecode (utf8Bytes segment) = bytes := by
  induction standsFor with
  | nil => rfl
  | escaped isHigh isLow _ ih => rw [percentDecode_utf8Bytes_escaped isHigh isLow, ih]
  | percent noDigits _ ih =>
      rw [← ih]
      exact percentDecode_percent noDigits
  | plain notPercent _ ih =>
      rw [utf8Bytes_cons, percentDecode_append (percent_not_mem_utf8EncodeChar notPercent), ih]

theorem exists_standsForBytes (segment : List Char) : ∃ bytes, StandsForBytes segment bytes := by
  match segment with
  | [] => exact ⟨_, .nil⟩
  | character :: rest =>
      by_cases isPercent : character = '%'
      · subst isPercent
        by_cases digits : BeginsWithDigits rest
        · obtain ⟨highDigit, lowDigit, high, low, others, isHigh, isLow, rfl⟩ := digits
          obtain ⟨bytes, standsFor⟩ := exists_standsForBytes others
          exact ⟨_, .escaped isHigh isLow standsFor⟩
        · obtain ⟨bytes, standsFor⟩ := exists_standsForBytes rest
          exact ⟨_, .percent digits standsFor⟩
      · obtain ⟨bytes, standsFor⟩ := exists_standsForBytes rest
        exact ⟨_, .plain isPercent standsFor⟩

/-- Percent-decoding the bytes of a segment gives the bytes that it stands for. -/
theorem percentDecode_eq_iff {segment : List Char} {bytes : List UInt8} :
    percentDecode (utf8Bytes segment) = bytes ↔ StandsForBytes segment bytes := by
  refine ⟨fun decoded => ?_, StandsForBytes.percentDecode_eq⟩
  obtain ⟨others, standsFor⟩ := exists_standsForBytes segment
  rw [← decoded, standsFor.percentDecode_eq]
  exact standsFor

/-- A segment is read as the text that it stands for, and only if there is one. -/
theorem decodeSegment?_eq_some_iff {segment text : List Char} :
    decodeSegment? segment = some text ↔ StandsFor segment text := by
  rw [decodeSegment?, utf8?_eq_some_iff, percentDecode_eq_iff, StandsFor]

theorem StandsFor.unique {segment text other : List Char} (standsFor : StandsFor segment text)
    (standsForOther : StandsFor segment other) : text = other := by
  apply Option.some.inj
  rw [← decodeSegment?_eq_some_iff.mpr standsFor, decodeSegment?_eq_some_iff.mpr standsForOther]

end LearnExport.Text
