import LearnExport.Text.Ascii
import LearnExport.Text.Blank
import LearnExport.Text.Pieces
import Mathlib.Data.List.TakeWhile
import Mathlib.Tactic.SplitIfs

/-!
# Spellings of a text

A text can be spelled in several ways that are read alike: with white space
around it, and with its letters in either case. Neither has to do with where a
text is cut, so a text may be cut first and its parts spelled anew.
-/

namespace LearnExport.Text

section Cutting

variable {separator : Char} {text before after : List Char}

theorem splitAtFirst_append (whole : separator ∉ before) :
    splitAtFirst separator (before ++ separator :: after) = some (before, after) := by
  induction before with
  | nil => simp [splitAtFirst]
  | cons character others ih =>
      obtain ⟨different, wholeOthers⟩ := not_or.mp (mt List.mem_cons.mpr whole)
      simp [splitAtFirst, Ne.symm different, ih wholeOthers]

theorem splitAtFirst_eq_none_iff : splitAtFirst separator text = none ↔ separator ∉ text := by
  induction text with
  | nil => simp [splitAtFirst]
  | cons character others ih =>
      by_cases same : character = separator
      · simp [splitAtFirst, same]
      · simp [splitAtFirst, same, Ne.symm same, ih]

/-- A text is cut at the first of its separators. -/
theorem splitAtFirst_eq_some_iff :
    splitAtFirst separator text = some (before, after) ↔
      separator ∉ before ∧ text = before ++ separator :: after := by
  constructor
  · intro cut
    induction text generalizing before with
    | nil => simp [splitAtFirst] at cut
    | cons character others ih =>
        by_cases same : character = separator
        · simp only [splitAtFirst, same, if_true, Option.some.injEq, Prod.mk.injEq] at cut
          obtain ⟨rfl, rfl⟩ := cut
          simp [same]
        · simp only [splitAtFirst, same, if_false, Option.map_eq_some_iff, Prod.mk.injEq,
            Prod.exists] at cut
          obtain ⟨start, rest, othersCut, rfl, rfl⟩ := cut
          obtain ⟨whole, joined⟩ := ih othersCut
          exact ⟨by simp [Ne.symm same, whole], by simp [joined]⟩
  · rintro ⟨whole, rfl⟩
    exact splitAtFirst_append whole

theorem pieces_eq_splitOn (separator : Char) (text : List Char) :
    pieces separator text = text.splitOn separator := by
  induction text with
  | nil => simp [pieces]
  | cons character others ih =>
      rw [pieces, List.splitOn_cons_eq_if_modifyHead, ih]
      obtain ⟨piece, more, cut⟩ :=
        List.exists_cons_of_ne_nil (List.splitOn_ne_nil separator others)
      simp [cut, extendFirst]

theorem joinWith_eq_intercalate (separator : List Char) (texts : List (List Char)) :
    joinWith separator texts = separator.intercalate texts := by
  induction texts with
  | nil => rfl
  | cons text others ih =>
      cases others with
      | nil => simp [joinWith]
      | cons next more => simp [joinWith, ih]

theorem pieces_append {piece : List Char} (rest : List Char) (whole : separator ∉ piece) :
    pieces separator (piece ++ separator :: rest) = piece :: pieces separator rest := by
  rw [pieces_eq_splitOn, pieces_eq_splitOn, List.splitOn_append_cons_self_of_not_mem whole]

end Cutting

section Case

theorem toNat_toLower (character : Char) :
    character.toLower.toNat =
      if 0x41 ≤ character.toNat ∧ character.toNat ≤ 0x5A then character.toNat + 0x20
      else character.toNat := by
  have isUpper : (character.val ≥ 'A'.val ∧ character.val ≤ 'Z'.val) ↔
      (0x41 ≤ character.toNat ∧ character.toNat ≤ 0x5A) := by
    simp only [ge_iff_le, UInt32.le_iff_toNat_le]
    rfl
  by_cases upper : character.val ≥ 'A'.val ∧ character.val ≤ 'Z'.val
  · have lowered : character.toLower.toNat = (character.val + 32).toNat :=
      congrArg Char.toNat (dif_pos upper)
    have bounds : 65 ≤ character.val.toNat ∧ character.val.toNat ≤ 90 := isUpper.mp upper
    have shift : (32 : UInt32).toNat = 32 := rfl
    have unchanged : character.toNat = character.val.toNat := rfl
    rw [if_pos (isUpper.mp upper), lowered, UInt32.toNat_add, shift, unchanged]
    omega
  · have kept : character.toLower = character := dif_neg upper
    rw [if_neg (mt isUpper.mpr upper), kept]

theorem toLower_toLower (character : Char) : character.toLower.toLower = character.toLower := by
  apply Char.toNat_inj.mp
  rw [toNat_toLower, toNat_toLower]
  split_ifs <;> omega

theorem isBlank_toLower (character : Char) : isBlank character.toLower = isBlank character := by
  rw [Bool.eq_iff_iff]
  simp only [isBlank, toNat_toLower, Bool.or_eq_true, Bool.and_eq_true, decide_eq_true_eq,
    beq_iff_eq]
  split_ifs <;> omega

/-- Lower case changes letters into letters only. -/
theorem toLower_eq_iff {character symbol : Char} (notLetter : symbol.toNat < 0x41) :
    character.toLower = symbol ↔ character = symbol := by
  rw [← Char.toNat_inj, ← Char.toNat_inj, toNat_toLower]
  split_ifs <;> omega

@[simp]
theorem lowerCase_lowerCase (text : List Char) : lowerCase (lowerCase text) = lowerCase text := by
  simp only [lowerCase, List.map_map, Function.comp_def, toLower_toLower]

theorem lowerCase_eq_nil_iff {text : List Char} : lowerCase text = [] ↔ text = [] :=
  List.map_eq_nil_iff

theorem sameIgnoringCase_iff {first second : List Char} :
    sameIgnoringCase first second = true ↔ lowerCase first = lowerCase second :=
  beq_iff_eq

theorem mem_lowerCase_iff {symbol : Char} (notLetter : symbol.toNat < 0x41) {text : List Char} :
    symbol ∈ lowerCase text ↔ symbol ∈ text := by
  simp [lowerCase, toLower_eq_iff notLetter]

/-- A text is cut at the same place in lower case. -/
theorem splitAtFirst_lowerCase {separator : Char} (notLetter : separator.toNat < 0x41)
    (text : List Char) :
    splitAtFirst separator (lowerCase text) =
      (splitAtFirst separator text).map fun parts => (lowerCase parts.1, lowerCase parts.2) := by
  cases cut : splitAtFirst separator text with
  | none =>
      rw [splitAtFirst_eq_none_iff] at cut
      exact splitAtFirst_eq_none_iff.mpr (mt (mem_lowerCase_iff notLetter).mp cut)
  | some parts =>
      obtain ⟨whole, joined⟩ := splitAtFirst_eq_some_iff.mp cut
      refine splitAtFirst_eq_some_iff.mpr ⟨mt (mem_lowerCase_iff notLetter).mp whole, ?_⟩
      simp [joined, lowerCase, (toLower_eq_iff notLetter).mpr]

end Case

section WhiteSpace

variable {start stop : List Char}

theorem trimStart_append (startBlank : ∀ character ∈ start, isBlank character = true)
    (text : List Char) : trimStart (start ++ text) = trimStart text :=
  List.dropWhile_append_of_pos startBlank

theorem trimEnd_append (stopBlank : ∀ character ∈ stop, isBlank character = true)
    (text : List Char) : trimEnd (text ++ stop) = trimEnd text := by
  have reversedBlank : ∀ character ∈ stop.reverse, isBlank character = true :=
    fun character member => stopBlank character (List.mem_reverse.mp member)
  rw [trimEnd, List.reverse_append, List.dropWhile_append_of_pos reversedBlank, trimEnd]

theorem trim_append_left (startBlank : ∀ character ∈ start, isBlank character = true)
    (text : List Char) : trim (start ++ text) = trim text := by
  rw [trim, trimStart_append startBlank, trim]

theorem trim_append_right (stopBlank : ∀ character ∈ stop, isBlank character = true)
    (text : List Char) : trim (text ++ stop) = trim text := by
  rw [trim, trim, trimStart, trimStart, List.dropWhile_append]
  split
  · rename_i allBlank
    rw [List.isEmpty_iff.mp allBlank, List.dropWhile_eq_nil_iff.mpr stopBlank]
  · exact trimEnd_append stopBlank _

/-- White space around a text counts for nothing. -/
theorem trim_append (startBlank : ∀ character ∈ start, isBlank character = true)
    (stopBlank : ∀ character ∈ stop, isBlank character = true) (text : List Char) :
    trim (start ++ text ++ stop) = trim text := by
  rw [trim_append_right stopBlank, trim_append_left startBlank]

/-- All that is cut off a text is white space. -/
theorem exists_eq_append_trim (text : List Char) :
    ∃ start stop, text = start ++ trim text ++ stop ∧
      (∀ character ∈ start, isBlank character = true) ∧
      ∀ character ∈ stop, isBlank character = true := by
  have blank (taken : List Char) :
      ∀ character ∈ taken.takeWhile isBlank, isBlank character = true :=
    List.all_eq_true.mp List.all_takeWhile
  have rest : trimStart text =
      trim text ++ ((trimStart text).reverse.takeWhile isBlank).reverse := by
    rw [trim, trimEnd, ← List.reverse_append, List.takeWhile_append_dropWhile,
      List.reverse_reverse]
  refine ⟨text.takeWhile isBlank, ((trimStart text).reverse.takeWhile isBlank).reverse, ?_,
    blank text, fun character member => blank _ character (List.mem_reverse.mp member)⟩
  rw [List.append_assoc, ← rest, trimStart, List.takeWhile_append_dropWhile]

theorem trim_lowerCase (text : List Char) : trim (lowerCase text) = lowerCase (trim text) := by
  have sameBlanks : isBlank ∘ Char.toLower = isBlank := funext isBlank_toLower
  simp only [trim, trimStart, trimEnd, lowerCase, List.dropWhile_map, sameBlanks,
    ← List.map_reverse]

end WhiteSpace

end LearnExport.Text
