import LearnExport.Json.Compact
import LearnExport.Json.Reader
import Mathlib.Tactic.IntervalCases

/-!
# Strings are read back

A string that is written between quotes is read back as it is, whatever its
characters: each character has a text of its own, and the reader turns this text
into the character again. So two strings with the same text are the same, and a
string ends where its text ends.
-/

namespace LearnExport.Json

/-- A control character is written as a backslash with a letter of its own, or
with its number in four hexadecimal digits. -/
theorem escapedCharacter_control {character : Char} (isControl : character.toNat < 0x20) :
    (∃ letter, letter ≠ 'u' ∧ simpleEscape? letter = some character ∧
      escapedCharacter character = ['\\', letter]) ∨
    ∃ third fourth, hexUnit? '0' '0' third fourth = some character.toNat ∧
      (third ≠ '"' ∧ third ≠ '\\' ∧ fourth ≠ '"' ∧ fourth ≠ '\\') ∧
      escapedCharacter character = ['\\', 'u', '0', '0', third, fourth] := by
  obtain ⟨number, isNumber⟩ : ∃ number, number = character.toNat := ⟨_, rfl⟩
  have ofNumber : character = Char.ofNat number := by rw [isNumber, Char.ofNat_toNat]
  rw [← isNumber] at isControl
  subst ofNumber
  clear isNumber
  interval_cases number <;>
    first
    | exact .inr ⟨_, _, by decide, by decide, rfl⟩
    | exact .inl ⟨_, by decide, by decide, rfl⟩

theorem escapedCharacter_of_plain {character : Char} (isControl : ¬character.toNat < 0x20)
    (isQuote : character ≠ '"') (isBackslash : character ≠ '\\') :
    escapedCharacter character = [character] := by
  unfold escapedCharacter
  split <;> simp_all

theorem stringRest?_escapedCharacter (character : Char) (text : List Char) :
    stringRest? (escapedCharacter character ++ text) =
      (stringRest? text).map fun parts => (character :: parts.1, parts.2) := by
  by_cases isControl : character.toNat < 0x20
  · rcases escapedCharacter_control isControl with
      ⟨letter, notUnicode, stands, written⟩ | ⟨third, fourth, stands, _, written⟩
    · rw [written]
      simp [stringRest?, notUnicode, stands]
    · have noSurrogate : character.toNat < 0xD800 := by omega
      rw [written]
      simp [stringRest?, stands, noSurrogate]
  · by_cases isQuote : character = '"'
    · subst isQuote
      rfl
    · by_cases isBackslash : character = '\\'
      · subst isBackslash
        rfl
      · rw [escapedCharacter_of_plain isControl isQuote isBackslash, List.singleton_append]
        simp [stringRest?, isControl, isBackslash]

/-- The text of a string is read as the string. -/
theorem stringRest?_stringText (value rest : List Char) :
    stringRest? (value.flatMap escapedCharacter ++ '"' :: rest) = some (value, rest) := by
  induction value with
  | nil => rfl
  | cons character others ih =>
      rw [List.flatMap_cons, List.append_assoc, stringRest?_escapedCharacter, ih]
      rfl

/-- A string ends where its text ends. -/
theorem stringText_append_inj {first second : String} {rest others : List Char}
    (same : stringText first ++ rest = stringText second ++ others) :
    first = second ∧ rest = others := by
  have reads (value : String) (rest : List Char) :
      stringRest? ((stringText value ++ rest).drop 1) = some (value.toList, rest) := by
    rw [← stringRest?_stringText]
    simp [stringText]
  have readsSame := reads first rest
  rw [same, reads second others, Option.some.injEq, Prod.mk.injEq] at readsSame
  exact ⟨String.toList_inj.mp readsSame.1.symm, readsSame.2.symm⟩

theorem stringText_inj {first second : String} :
    stringText first = stringText second ↔ first = second := by
  refine ⟨fun same => ?_, congrArg stringText⟩
  have sameText : stringText first ++ [] = stringText second ++ [] := by rw [same]
  exact (stringText_append_inj sameText).1

end LearnExport.Json
