import LearnExport.Proofs.Text.PercentDecoding
import LearnExport.Proofs.Text.Spelling

/-!
# Form data is read back

A list of pairs can be written as a query in many ways. A character without a
meaning in form data may stand for itself, a space may be a plus sign, and any
character may be written as its bytes with a percent sign and two hexadecimal
digits for each. Reading the query undoes all these choices, in keys as in
values: neither separator stands in a part that is written so, and the bytes are
put together before they are read as characters.
-/

namespace LearnExport.Text

/-! ### Spellings -/

/-- That a character is the hexadecimal digit of a value, in either case. -/
def IsHexDigit (value : Nat) (character : Char) : Prop :=
  "0123456789abcdef".toList[value]? = some character ∨
    "0123456789ABCDEF".toList[value]? = some character

/-- That a text is a percent sign and two hexadecimal digits for each byte. -/
inductive EscapesBytes : List UInt8 → List Char → Prop
  | nil : EscapesBytes [] []
  | cons {byte : UInt8} {bytes : List UInt8} {high low : Char} {text : List Char} :
      IsHexDigit (byte.toNat / 16) high → IsHexDigit (byte.toNat % 16) low →
      EscapesBytes bytes text → EscapesBytes (byte :: bytes) ('%' :: high :: low :: text)

/-- The ways to write a character where some characters have another meaning. -/
inductive SpellsCharacter (reserved : List Char) : Char → List Char → Prop
  | plain {character : Char} : character ∉ reserved →
      SpellsCharacter reserved character [character]
  | plus : SpellsCharacter reserved ' ' ['+']
  | escaped {character : Char} {text : List Char} :
      EscapesBytes (String.utf8EncodeChar character) text →
      SpellsCharacter reserved character text

/-- That a text is written character by character. -/
inductive Spells (reserved : List Char) : List Char → List Char → Prop
  | nil : Spells reserved [] []
  | cons {character : Char} {others spelled rest : List Char} :
      SpellsCharacter reserved character spelled → Spells reserved others rest →
      Spells reserved (character :: others) (spelled ++ rest)

/-- The characters that have another meaning in a value. -/
def reservedInValue : List Char := ['&', '+', '%', '#']

/-- The characters that have another meaning in a key. -/
def reservedInKey : List Char := '=' :: reservedInValue

/-- The ways to write a pair. Without a value there may be no `=` either, unless there would be
nothing at all. -/
inductive SpellsPair : List Char × List Char → List Char → Prop
  | keyed {key value keyText valueText : List Char} :
      Spells reservedInKey key keyText → Spells reservedInValue value valueText →
      SpellsPair (key, value) (keyText ++ '=' :: valueText)
  | bare {key keyText : List Char} : key ≠ [] → Spells reservedInKey key keyText →
      SpellsPair (key, []) keyText

/-- That the pieces of a query write pairs, with empty pieces anywhere. -/
inductive SpellsPieces : List (List Char × List Char) → List (List Char) → Prop
  | nil : SpellsPieces [] []
  | skip {pairs : List (List Char × List Char)} {pieces : List (List Char)} :
      SpellsPieces pairs pieces → SpellsPieces pairs ([] :: pieces)
  | cons {pair : List Char × List Char} {pairs : List (List Char × List Char)}
      {piece : List Char} {pieces : List (List Char)} :
      SpellsPair pair piece → SpellsPieces pairs pieces →
      SpellsPieces (pair :: pairs) (piece :: pieces)

/-- That a query is form data with the given pairs. -/
def EncodesForm (pairs : List (List Char × List Char)) (query : List Char) : Prop :=
  ∃ pieces, SpellsPieces pairs pieces ∧ query = joinWith ['&'] pieces

/-! ### Escaped bytes -/

section Digits

variable {value : Nat} {character : Char}

theorem IsHexDigit.hexDigit?_eq (isDigit : IsHexDigit value character) :
    hexDigit? character = some value := by
  have bound : value < 16 := by
    rcases isDigit with isDigit | isDigit
    · exact (List.getElem?_eq_some_iff.mp isDigit).1
    · exact (List.getElem?_eq_some_iff.mp isDigit).1
  interval_cases value
  all_goals
    obtain isLower | isUpper := isDigit
    · rw [← Option.some.inj isLower]
      rfl
    · rw [← Option.some.inj isUpper]
      rfl

theorem IsHexDigit.ascii_and_ne_plus (isDigit : IsHexDigit value character) :
    character.toNat < 0x80 ∧ character ≠ '+' := by
  have digits : ("0123456789abcdef".toList ++ "0123456789ABCDEF".toList).all
      (fun digit => digit.toNat < 0x80 && digit != '+') = true := rfl
  have member : character ∈ "0123456789abcdef".toList ++ "0123456789ABCDEF".toList :=
    List.mem_append.mpr (isDigit.imp List.mem_of_getElem? List.mem_of_getElem?)
  simpa using List.all_eq_true.mp digits character member

theorem IsHexDigit.hexByte?_eq (isDigit : IsHexDigit value character) :
    hexByte? (UInt8.ofNat character.toNat) = some value := by
  have isAscii := isDigit.ascii_and_ne_plus.1
  rw [hexByte?, toNat_byte (by omega), Char.ofNat_toNat, isDigit.hexDigit?_eq]

end Digits

/-- The bytes of a part of form data, with spaces for the plus signs. -/
def spacedBytes (text : List Char) : List UInt8 :=
  utf8Bytes (text.map fun character => if character = '+' then ' ' else character)

theorem decodeFormText_eq (text : List Char) :
    decodeFormText text = utf8Lenient (percentDecode (spacedBytes text)) := rfl

theorem spacedBytes_cons {character : Char} (notPlus : character ≠ '+') (rest : List Char) :
    spacedBytes (character :: rest) = String.utf8EncodeChar character ++ spacedBytes rest := by
  rw [spacedBytes, List.map_cons, if_neg notPlus]
  rfl

theorem EscapesBytes.percentDecode {bytes : List UInt8} {text : List Char}
    (escapes : EscapesBytes bytes text) (rest : List Char) :
    percentDecode (spacedBytes (text ++ rest)) = bytes ++ percentDecode (spacedBytes rest) := by
  induction escapes with
  | nil => rfl
  | @cons byte bytes high low text isHigh isLow _ ih =>
      obtain ⟨highAscii, highNotPlus⟩ := isHigh.ascii_and_ne_plus
      obtain ⟨lowAscii, lowNotPlus⟩ := isLow.ascii_and_ne_plus
      have percent : String.utf8EncodeChar '%' = [0x25] := rfl
      have isByte : byte.toNat = 16 * (byte.toNat / 16) + byte.toNat % 16 := by omega
      rw [List.cons_append, List.cons_append, List.cons_append, spacedBytes_cons (by decide),
        spacedBytes_cons highNotPlus, spacedBytes_cons lowNotPlus, percent,
        utf8EncodeChar_of_lt highAscii, utf8EncodeChar_of_lt lowAscii]
      simp only [List.singleton_append]
      rw [percentDecode_escaped isHigh.hexByte?_eq isLow.hexByte?_eq isByte, ih, List.cons_append]

section Parts

variable {reserved text spelled : List Char}

/-- A character is read as itself, however it is written. -/
theorem SpellsCharacter.percentDecode {character : Char}
    (spells : SpellsCharacter reserved character spelled) (reservesPlus : '+' ∈ reserved)
    (reservesPercent : '%' ∈ reserved) (rest : List Char) :
    percentDecode (spacedBytes (spelled ++ rest)) =
      String.utf8EncodeChar character ++ percentDecode (spacedBytes rest) := by
  cases spells with
  | plain unreserved =>
      have notPlus : character ≠ '+' := fun same => unreserved (same ▸ reservesPlus)
      have notPercent : character ≠ '%' := fun same => unreserved (same ▸ reservesPercent)
      rw [List.singleton_append, spacedBytes_cons notPlus,
        percentDecode_append (percent_not_mem_utf8EncodeChar notPercent)]
  | plus =>
      have space : spacedBytes (['+'] ++ rest) = 0x20 :: spacedBytes rest := rfl
      rw [space, percentDecode_cons_of_ne (by decide)]
      rfl
  | escaped escapes => exact escapes.percentDecode rest

theorem Spells.percentDecode (spells : Spells reserved text spelled)
    (reservesPlus : '+' ∈ reserved) (reservesPercent : '%' ∈ reserved) :
    percentDecode (spacedBytes spelled) = utf8Bytes text := by
  induction spells with
  | nil => rfl
  | cons first _ ih =>
      rw [first.percentDecode reservesPlus reservesPercent, ih]
      rfl

theorem Spells.decodeFormText (spells : Spells reserved text spelled)
    (reservesPlus : '+' ∈ reserved) (reservesPercent : '%' ∈ reserved) :
    decodeFormText spelled = text := by
  rw [decodeFormText_eq, spells.percentDecode reservesPlus reservesPercent, utf8Lenient_utf8Bytes]

theorem Spells.ne_nil (spells : Spells reserved text spelled) (reservesPlus : '+' ∈ reserved)
    (reservesPercent : '%' ∈ reserved) (notEmpty : text ≠ []) : spelled ≠ [] := by
  rintro rfl
  exact notEmpty (spells.decodeFormText reservesPlus reservesPercent).symm

end Parts

section Separators

variable {reserved : List Char} {separator : Char}

/-- A character that separates parts of a query, and is reserved in them. -/
structure IsSeparator (reserved : List Char) (separator : Char) : Prop where
  isReserved : separator ∈ reserved
  ne_plus : separator ≠ '+'
  ne_percent : separator ≠ '%'
  notDigit : hexDigit? separator = none

theorem IsSeparator.not_mem_of_escapesBytes (isSeparator : IsSeparator reserved separator)
    {bytes : List UInt8} {text : List Char} (escapes : EscapesBytes bytes text) :
    separator ∉ text := by
  have notDigit {value : Nat} {digit : Char} (isDigit : IsHexDigit value digit) :
      separator ≠ digit := by
    rintro rfl
    simpa [isSeparator.notDigit] using isDigit.hexDigit?_eq
  induction escapes with
  | nil => exact List.not_mem_nil
  | cons isHigh isLow _ ih =>
      simp [isSeparator.ne_percent, notDigit isHigh, notDigit isLow, ih]

theorem IsSeparator.not_mem_of_spells (isSeparator : IsSeparator reserved separator)
    {text spelled : List Char} (spells : Spells reserved text spelled) : separator ∉ spelled := by
  induction spells with
  | nil => exact List.not_mem_nil
  | cons first _ ih =>
      refine List.not_mem_append ?_ ih
      cases first with
      | plain unreserved =>
          rw [List.mem_singleton]
          rintro rfl
          exact unreserved isSeparator.isReserved
      | plus => simpa using isSeparator.ne_plus
      | escaped escapes => exact isSeparator.not_mem_of_escapesBytes escapes

end Separators

section Pairs

variable {pair : List Char × List Char} {piece : List Char}

theorem SpellsPair.formPair_eq (spells : SpellsPair pair piece) : formPair piece = pair := by
  have equals : IsSeparator reservedInKey '=' :=
    ⟨by decide, by decide, by decide, by decide⟩
  cases spells with
  | keyed spellsKey spellsValue =>
      rw [formPair, splitAtFirst_append (equals.not_mem_of_spells spellsKey)]
      simp only [spellsKey.decodeFormText (by decide) (by decide),
        spellsValue.decodeFormText (by decide) (by decide)]
  | bare _ spellsKey =>
      rw [formPair, splitAtFirst_eq_none_iff.mpr (equals.not_mem_of_spells spellsKey)]
      simp only [spellsKey.decodeFormText (by decide) (by decide)]

theorem SpellsPair.ampersand_not_mem (spells : SpellsPair pair piece) : '&' ∉ piece := by
  have inKey : IsSeparator reservedInKey '&' := ⟨by decide, by decide, by decide, by decide⟩
  have inValue : IsSeparator reservedInValue '&' := ⟨by decide, by decide, by decide, by decide⟩
  cases spells with
  | keyed spellsKey spellsValue =>
      refine List.not_mem_append (inKey.not_mem_of_spells spellsKey) ?_
      rw [List.mem_cons, not_or]
      exact ⟨by decide, inValue.not_mem_of_spells spellsValue⟩
  | bare _ spellsKey => exact inKey.not_mem_of_spells spellsKey

theorem SpellsPair.ne_nil (spells : SpellsPair pair piece) : piece ≠ [] := by
  cases spells with
  | keyed => simp
  | bare notEmpty spellsKey => exact spellsKey.ne_nil (by decide) (by decide) notEmpty

end Pairs

section Queries

variable {pairs : List (List Char × List Char)} {query : List Char}

theorem SpellsPieces.ampersand_not_mem {pieces : List (List Char)}
    (spells : SpellsPieces pairs pieces) : ∀ piece ∈ pieces, '&' ∉ piece := by
  induction spells with
  | nil => exact nofun
  | skip _ ih => exact List.forall_mem_cons.mpr ⟨List.not_mem_nil, ih⟩
  | cons first _ ih => exact List.forall_mem_cons.mpr ⟨first.ampersand_not_mem, ih⟩

theorem SpellsPieces.map_formPair {pieces : List (List Char)}
    (spells : SpellsPieces pairs pieces) :
    (pieces.filter fun piece => !piece.isEmpty).map formPair = pairs := by
  induction spells with
  | nil => rfl
  | skip _ ih => simpa using ih
  | cons first _ ih => simp [first.ne_nil, first.formPair_eq, ih]

/-- The pairs of a query are those that it was written for. -/
theorem EncodesForm.formPairs_eq (encodes : EncodesForm pairs query) : formPairs query = pairs := by
  obtain ⟨written, spells, rfl⟩ := encodes
  rcases eq_or_ne written [] with rfl | notEmpty
  · cases spells
    rfl
  · rw [formPairs, pieces_eq_splitOn, joinWith_eq_intercalate,
      List.splitOn_intercalate _ spells.ampersand_not_mem notEmpty, spells.map_formPair]

end Queries

end LearnExport.Text
