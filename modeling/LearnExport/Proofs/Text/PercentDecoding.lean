import LearnExport.Proofs.Text.Utf8RoundTrip
import LearnExport.Text.Percent

/-!
# Text with percent signs

A percent sign and two digits stand for a byte, and all other bytes for
themselves. Of all characters only the percent sign is written with its byte, so a
text without it is read as it is.
-/

namespace LearnExport.Text

theorem percentDecode_cons_of_ne {byte : UInt8} (notPercent : byte ≠ 0x25)
    (rest : List UInt8) : percentDecode (byte :: rest) = byte :: percentDecode rest := by
  rw [percentDecode.eq_def]
  simp only [if_neg notPercent]

theorem percentDecode_append {bytes : List UInt8} (noPercent : 0x25 ∉ bytes)
    (rest : List UInt8) : percentDecode (bytes ++ rest) = bytes ++ percentDecode rest := by
  induction bytes with
  | nil => rfl
  | cons byte others ih =>
      obtain ⟨notPercent, noOther⟩ := not_or.mp (mt List.mem_cons.mpr noPercent)
      rw [List.cons_append, percentDecode_cons_of_ne (Ne.symm notPercent), ih noOther,
        List.cons_append]

theorem percentDecode_escaped {byte high low : UInt8} {highDigit lowDigit : Nat}
    (isHigh : hexByte? high = some highDigit) (isLow : hexByte? low = some lowDigit)
    (isByte : byte.toNat = 16 * highDigit + lowDigit) (rest : List UInt8) :
    percentDecode (0x25 :: high :: low :: rest) = byte :: percentDecode rest := by
  rw [percentDecode.eq_def]
  simp only [if_pos, isHigh, isLow, ← isByte, UInt8.ofNat_toNat]

theorem percent_ne_byte {number : Nat} (least : 128 ≤ number) (small : number < 256) :
    0x25 ≠ UInt8.ofNat number := fun same =>
  not_byte_lt least small (same ▸ by decide)

/-- Only the percent sign is written with its byte. -/
theorem percent_not_mem_utf8EncodeChar {character : Char} (notPercent : character ≠ '%') :
    0x25 ∉ String.utf8EncodeChar character := by
  obtain ⟨number, isNumber⟩ : ∃ number, character.val.toNat = number := ⟨_, rfl⟩
  have valid : number < 55296 ∨ 57343 < number ∧ number < 1114112 := isNumber ▸ character.valid
  simp only [String.utf8EncodeChar, isNumber]
  split
  · intro member
    refine notPercent (Char.toNat_inj.mp ?_)
    have same := congrArg UInt8.toNat (List.mem_singleton.mp member)
    rw [toNat_byte (by omega)] at same
    exact isNumber.trans same.symm
  split
  · simp only [List.mem_cons, List.not_mem_nil, or_false, not_or]
    exact ⟨percent_ne_byte (by omega) (by omega), percent_ne_byte (by omega) (by omega)⟩
  split
  · simp only [List.mem_cons, List.not_mem_nil, or_false, not_or]
    exact ⟨percent_ne_byte (by omega) (by omega), percent_ne_byte (by omega) (by omega),
      percent_ne_byte (by omega) (by omega)⟩
  · simp only [List.mem_cons, List.not_mem_nil, or_false, not_or]
    exact ⟨percent_ne_byte (by omega) (by omega), percent_ne_byte (by omega) (by omega),
      percent_ne_byte (by omega) (by omega), percent_ne_byte (by omega) (by omega)⟩

theorem percentDecode_utf8Bytes {text : List Char} (noPercent : '%' ∉ text) :
    percentDecode (utf8Bytes text) = utf8Bytes text := by
  have noByte : 0x25 ∉ utf8Bytes text := by
    intro member
    obtain ⟨character, isCharacter, inCharacter⟩ := List.mem_flatMap.mp member
    have notPercent : character ≠ '%' := fun same => noPercent (same ▸ isCharacter)
    exact percent_not_mem_utf8EncodeChar notPercent inCharacter
  simpa [percentDecode] using percentDecode_append noByte []

/-- A segment without percent signs stands for itself. -/
theorem decodeSegment?_of_not_mem {text : List Char} (noPercent : '%' ∉ text) :
    decodeSegment? text = some text := by
  rw [decodeSegment?, percentDecode_utf8Bytes noPercent, utf8?_utf8Bytes]

end LearnExport.Text
