import LearnExport.Text.Utf8
import Mathlib.Tactic.IntervalCases

/-!
# Text written as UTF-8 is read back

A character is written as one to four bytes. The first byte tells how many
follow, and every byte that follows adds six bits. The bounds that the first byte
sets for the second exclude only what no character is written as.
-/

namespace LearnExport.Text

theorem toNat_byte {number : Nat} (small : number < 256) : (UInt8.ofNat number).toNat = number := by
  rw [UInt8.toNat_ofNat']
  omega

theorem byte_mem_range {number : Nat} {least greatest : UInt8} (small : number < 64)
    (above : least.toNat ≤ number + 128) (below : number + 128 ≤ greatest.toNat) :
    least ≤ UInt8.ofNat (number + 128) ∧ UInt8.ofNat (number + 128) ≤ greatest := by
  rw [UInt8.le_iff_toNat_le, UInt8.le_iff_toNat_le, toNat_byte (by omega)]
  exact ⟨above, below⟩

theorem utf8EncodeChar_of_lt {character : Char} (isAscii : character.toNat < 0x80) :
    String.utf8EncodeChar character = [UInt8.ofNat character.toNat] := by
  have oneByte : character.val.toNat ≤ 127 := Nat.le_of_lt_succ isAscii
  rw [String.utf8EncodeChar, if_pos oneByte]
  rfl

section Leads

variable (bits second : Nat)

theorem leadByte?_two (isSecond : second < 64) (notShort : 2 ≤ bits) (small : bits < 32) :
    ∃ least greatest, leadByte? (UInt8.ofNat (bits + 192)) = some ⟨least, greatest, 0, bits⟩ ∧
      least ≤ UInt8.ofNat (second + 128) ∧ UInt8.ofNat (second + 128) ≤ greatest := by
  interval_cases bits
  all_goals
    refine ⟨_, _, rfl, byte_mem_range isSecond ?_ ?_⟩
    all_goals
      simp only [UInt8.reduceToNat]
      omega

theorem leadByte?_three (isSecond : second < 64) (small : bits < 16)
    (notShort : 32 ≤ bits * 64 + second)
    (noSurrogate : bits * 64 + second < 864 ∨ 896 ≤ bits * 64 + second) :
    ∃ least greatest, leadByte? (UInt8.ofNat (bits + 224)) = some ⟨least, greatest, 1, bits⟩ ∧
      least ≤ UInt8.ofNat (second + 128) ∧ UInt8.ofNat (second + 128) ≤ greatest := by
  interval_cases bits
  all_goals
    refine ⟨_, _, rfl, byte_mem_range isSecond ?_ ?_⟩
    all_goals
      simp only [UInt8.reduceToNat]
      omega

theorem leadByte?_four (isSecond : second < 64) (notShort : 16 ≤ bits * 64 + second)
    (isCharacter : bits * 64 + second < 272) :
    ∃ least greatest, leadByte? (UInt8.ofNat (bits + 240)) = some ⟨least, greatest, 2, bits⟩ ∧
      least ≤ UInt8.ofNat (second + 128) ∧ UInt8.ofNat (second + 128) ≤ greatest := by
  have small : bits < 5 := by omega
  interval_cases bits
  all_goals
    refine ⟨_, _, rfl, byte_mem_range isSecond ?_ ?_⟩
    all_goals
      simp only [UInt8.reduceToNat]
      omega

end Leads

section Steps

variable {first second : UInt8} (third fourth : UInt8) {least greatest : UInt8} {bits : Nat}
  (notAscii : ¬ first < 0x80) (inRange : least ≤ second ∧ second ≤ greatest)
  (rest : List UInt8)
include notAscii inRange

theorem decodeUtf8_two (isLead : leadByte? first = some ⟨least, greatest, 0, bits⟩) :
    decodeUtf8 (first :: second :: rest) =
      some (Char.ofNat (continued bits second)) :: decodeUtf8 rest := by
  rw [decodeUtf8, if_neg notAscii]
  simp only [isLead, if_pos inRange, if_pos]

theorem decodeUtf8_three (isLead : leadByte? first = some ⟨least, greatest, 1, bits⟩)
    (continues : isContinuation third = true) :
    decodeUtf8 (first :: second :: third :: rest) =
      some (Char.ofNat (continued (continued bits second) third)) :: decodeUtf8 rest := by
  rw [decodeUtf8, if_neg notAscii]
  simp only [isLead, if_pos inRange, if_pos continues, one_ne_zero, if_false, if_true]

theorem decodeUtf8_four (isLead : leadByte? first = some ⟨least, greatest, 2, bits⟩)
    (continues : isContinuation third = true) (ends : isContinuation fourth = true) :
    decodeUtf8 (first :: second :: third :: fourth :: rest) =
      some (Char.ofNat (continued (continued (continued bits second) third) fourth)) ::
        decodeUtf8 rest := by
  rw [decodeUtf8, if_neg notAscii]
  simp only [isLead, if_pos inRange, if_pos continues, if_pos ends, OfNat.ofNat_ne_zero,
    OfNat.ofNat_ne_one, if_false]

end Steps

section Characters

variable {number : Nat}

theorem not_byte_lt (least : 128 ≤ number) (small : number < 256) :
    ¬ UInt8.ofNat number < 0x80 := by
  have bound : (0x80 : UInt8).toNat = 128 := rfl
  rw [UInt8.lt_iff_toNat_lt, toNat_byte small, bound]
  omega

theorem isContinuation_byte (small : number < 64) :
    isContinuation (UInt8.ofNat (number + 128)) = true := by
  simp only [isContinuation, UInt8.le_iff_toNat_le, toNat_byte (show number + 128 < 256 by omega),
    UInt8.reduceToNat, Bool.and_eq_true, decide_eq_true_eq]
  omega

theorem continued_byte (bits : Nat) (small : number < 64) :
    continued bits (UInt8.ofNat (number + 128)) = bits * 64 + number := by
  have isByte : number + 128 < 256 := by omega
  have added : (UInt8.ofNat (number + 128)).toNat - 128 = number := by
    rw [toNat_byte isByte, Nat.add_sub_cancel]
  exact congrArg (bits * 64 + ·) added

/-- The bytes of a character are read as the character. -/
theorem decodeUtf8_character (character : Char) (rest : List UInt8) :
    decodeUtf8 (String.utf8EncodeChar character ++ rest) = some character :: decodeUtf8 rest := by
  obtain ⟨number, isNumber⟩ : ∃ number, character.val.toNat = number := ⟨_, rfl⟩
  have valid : number < 55296 ∨ 57343 < number ∧ number < 1114112 := isNumber ▸ character.valid
  have read : Char.ofNat number = character := isNumber ▸ Char.ofNat_toNat character
  simp only [String.utf8EncodeChar, isNumber]
  split
  · have isAscii : UInt8.ofNat number < 0x80 := by
      have bound : (0x80 : UInt8).toNat = 128 := rfl
      rw [UInt8.lt_iff_toNat_lt, toNat_byte (by omega), bound]
      omega
    rw [List.singleton_append, decodeUtf8, if_pos isAscii, toNat_byte (by omega), read]
  split
  · have high : number / 64 % 32 = number / 64 := by omega
    obtain ⟨least, greatest, lead, inRange⟩ :=
      leadByte?_two (number / 64) (number % 64) (by omega) (by omega) (by omega)
    have step := decodeUtf8_two (not_byte_lt (by omega) (by omega)) inRange rest lead
    rw [continued_byte _ (by omega), Nat.div_add_mod', read] at step
    rw [high]
    exact step
  split
  · have high : number / 4096 % 16 = number / 4096 := by omega
    have value : (number / 4096 * 64 + number / 64 % 64) * 64 + number % 64 = number := by omega
    obtain ⟨least, greatest, lead, inRange⟩ :=
      leadByte?_three (number / 4096) (number / 64 % 64) (by omega) (by omega)
        (by omega) (by omega)
    have step := decodeUtf8_three (UInt8.ofNat (number % 64 + 128))
      (not_byte_lt (by omega) (by omega)) inRange rest lead (isContinuation_byte (by omega))
    rw [continued_byte _ (by omega), continued_byte _ (by omega), value, read] at step
    rw [high]
    exact step
  · have high : number / 262144 % 8 = number / 262144 := by omega
    have value : ((number / 262144 * 64 + number / 4096 % 64) * 64 + number / 64 % 64) * 64 +
        number % 64 = number := by omega
    obtain ⟨least, greatest, lead, inRange⟩ :=
      leadByte?_four (number / 262144) (number / 4096 % 64) (by omega) (by omega)
        (by omega)
    have step := decodeUtf8_four (UInt8.ofNat (number / 64 % 64 + 128))
      (UInt8.ofNat (number % 64 + 128)) (not_byte_lt (by omega) (by omega)) inRange rest
      lead (isContinuation_byte (by omega)) (isContinuation_byte (by omega))
    rw [continued_byte _ (by omega), continued_byte _ (by omega), continued_byte _ (by omega),
      value, read] at step
    rw [high]
    exact step

/-- A text is read back from its bytes. -/
theorem decodeUtf8_utf8Bytes (text : List Char) : decodeUtf8 (utf8Bytes text) = text.map some := by
  induction text with
  | nil => rfl
  | cons character others ih =>
      rw [utf8Bytes, List.flatMap_cons, decodeUtf8_character, ← utf8Bytes, ih, List.map_cons]

theorem utf8Lenient_utf8Bytes (text : List Char) : utf8Lenient (utf8Bytes text) = text := by
  rw [utf8Lenient, decodeUtf8_utf8Bytes, List.map_map]
  exact List.map_id text

theorem utf8?_utf8Bytes (text : List Char) : utf8? (utf8Bytes text) = some text := by
  rw [utf8?, decodeUtf8_utf8Bytes]
  induction text with
  | nil => rfl
  | cons character others ih =>
      simp only [List.map_cons, List.mapM_cons, id_eq, ih]
      rfl

end Characters

end LearnExport.Text
