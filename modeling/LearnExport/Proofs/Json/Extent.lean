import LearnExport.Proofs.Json.StringText
import LearnExport.Proofs.Number.NumberText
import LearnExport.Text.Pieces

/-!
# Where a value ends

The text of a value tells by itself where it ends: a scanner that counts brackets
and knows when it is in a string stops at the first comma or closing bracket that
does not belong to the value. So texts of values, one after the other with commas
between them, have the same characters only if they have the same parts.
-/

namespace LearnExport.Json

/-- Where a scanner stands: outside strings, in a string, or after a backslash in
a string. -/
inductive Mode where
  | outside
  | inside
  | escaped
deriving DecidableEq, Repr

/-- The text up to the end of the value that it starts in, at a number of open
brackets. -/
def extent : Nat → Mode → List Char → List Char
  | _, _, [] => []
  | depth, .inside, character :: rest =>
      if character = '\\' then character :: extent depth .escaped rest
      else if character = '"' then character :: extent depth .outside rest
      else character :: extent depth .inside rest
  | depth, .escaped, character :: rest => character :: extent depth .inside rest
  | depth, .outside, character :: rest =>
      if character = '"' then character :: extent depth .inside rest
      else if character = '[' ∨ character = '{' then
        character :: extent (depth + 1) .outside rest
      else if character = ']' ∨ character = '}' then
        match depth with
        | 0 => []
        | outer + 1 => character :: extent outer .outside rest
      else if character = ',' ∧ depth = 0 then []
      else character :: extent depth .outside rest

/-- That a scanner goes through a text and stands afterwards where it stood
before. -/
def IsPassed (depth : Nat) (text : List Char) : Prop :=
  ∀ rest, extent depth .outside (text ++ rest) = text ++ extent depth .outside rest

namespace IsPassed

variable {depth : Nat} {first second text : List Char}

theorem nil : IsPassed depth [] := fun _ => rfl

theorem append (firstPassed : IsPassed depth first) (secondPassed : IsPassed depth second) :
    IsPassed depth (first ++ second) := by
  intro rest
  rw [List.append_assoc, firstPassed, secondPassed, List.append_assoc]

theorem cons {character : Char} (characterPassed : IsPassed depth [character])
    (textPassed : IsPassed depth text) : IsPassed depth (character :: text) :=
  characterPassed.append textPassed

/-- Between brackets a scanner goes as far as the closing one. -/
theorem bracketed (inner : IsPassed (depth + 1) text) {opening closing : Char}
    (opens : opening = '[' ∧ closing = ']' ∨ opening = '{' ∧ closing = '}') :
    IsPassed depth (opening :: text ++ [closing]) := by
  intro rest
  rcases opens with ⟨rfl, rfl⟩ | ⟨rfl, rfl⟩
  · simp [extent, inner (']' :: rest)]
  · simp [extent, inner ('}' :: rest)]

theorem of_isNumeric (numeric : Number.IsNumeric text) : IsPassed depth text := by
  induction text with
  | nil => exact nil
  | cons character others ih =>
      obtain ⟨isNumeric, othersNumeric⟩ := Number.isNumeric_cons.mp numeric
      refine cons (fun rest => ?_) (ih othersNumeric)
      have notSpecial : character ≠ '"' ∧ character ≠ '[' ∧ character ≠ '{' ∧ character ≠ ']' ∧
          character ≠ '}' ∧ character ≠ ',' := by
        refine ⟨?_, ?_, ?_, ?_, ?_, ?_⟩ <;>
          · rintro rfl
            exact absurd isNumeric (by decide)
      simp [extent, notSpecial]

end IsPassed

theorem extent_escapedCharacter (depth : Nat) (character : Char) (rest : List Char) :
    extent depth .inside (escapedCharacter character ++ rest) =
      escapedCharacter character ++ extent depth .inside rest := by
  by_cases isControl : character.toNat < 0x20
  · rcases escapedCharacter_control isControl with
      ⟨letter, _, _, written⟩ | ⟨third, fourth, _, notSpecial, written⟩
    · rw [written]
      simp [extent]
    · rw [written]
      simp [extent, notSpecial]
  · by_cases isQuote : character = '"'
    · subst isQuote
      rfl
    · by_cases isBackslash : character = '\\'
      · subst isBackslash
        rfl
      · rw [escapedCharacter_of_plain isControl isQuote isBackslash]
        simp [extent, isQuote, isBackslash]

theorem isPassed_stringText (depth : Nat) (value : String) :
    IsPassed depth (stringText value) := by
  have inString (characters rest : List Char) :
      extent depth .inside (characters.flatMap escapedCharacter ++ '"' :: rest) =
        characters.flatMap escapedCharacter ++ '"' :: extent depth .outside rest := by
    induction characters with
    | nil => simp [extent]
    | cons character others ih =>
        rw [List.flatMap_cons, List.append_assoc, extent_escapedCharacter, ih, List.append_assoc]
  intro rest
  have written : stringText value ++ rest =
      '"' :: (value.toList.flatMap escapedCharacter ++ '"' :: rest) := by
    simp [stringText]
  have opened (text : List Char) :
      extent depth .outside ('"' :: text) = '"' :: extent depth .inside text := by
    simp [extent]
  rw [written, opened, inString]
  simp [stringText]

theorem isPassed_double (depth : Nat) (number : Number.Binary64) :
    IsPassed depth (Number.Layout.row.double number) := by
  by_cases isReal : number.isFinite = true
  · exact .of_isNumeric (Number.Layout.isNumeric_double _ isReal)
  · unfold Number.Layout.double
    dsimp only
    rw [if_neg isReal]
    split
    · split <;> intro rest <;> simp [extent]
    · intro rest
      simp [extent]

mutual

/-- A scanner goes through the text of a value. -/
theorem isPassed_characters (depth : Nat) : (value : Json) → IsPassed depth value.characters
  | .null => fun rest => by simp [characters, extent]
  | .bool true => fun rest => by simp [characters, extent]
  | .bool false => fun rest => by simp [characters, extent]
  | .integer value => .of_isNumeric (Number.isNumeric_integer value)
  | .double number => isPassed_double depth number
  | .string value => isPassed_stringText depth value
  | .array elements => (isPassed_elementCharacters depth elements).bracketed (.inl ⟨rfl, rfl⟩)
  | .object members => (isPassed_memberCharacters depth members).bracketed (.inr ⟨rfl, rfl⟩)

theorem isPassed_elementCharacters (depth : Nat) :
    (elements : List Json) → IsPassed (depth + 1) (elementCharacters elements)
  | [] => .nil
  | [element] => isPassed_characters (depth + 1) element
  | element :: next :: others =>
      (isPassed_characters (depth + 1) element).append
        (.cons (fun rest => by simp [extent]) (isPassed_elementCharacters depth (next :: others)))

theorem isPassed_memberCharacters (depth : Nat) :
    (members : List (String × Json)) → IsPassed (depth + 1) (memberCharacters members)
  | [] => .nil
  | [(key, value)] =>
      (isPassed_stringText (depth + 1) key).append
        (.cons (fun rest => by simp [extent]) (isPassed_characters (depth + 1) value))
  | (key, value) :: next :: others =>
      ((isPassed_stringText (depth + 1) key).append
        (.cons (fun rest => by simp [extent]) (isPassed_characters (depth + 1) value))).append
          (.cons (fun rest => by simp [extent])
            (isPassed_memberCharacters depth (next :: others)))

end

/-- Text that begins like the rest of an array or object, or that has ended. -/
def IsRest (text : List Char) : Prop :=
  ∀ character ∈ text.head?, character = ',' ∨ character = ']' ∨ character = '}'

/-- A scanner finds what it goes through in front of the rest of an array or
object. -/
theorem IsPassed.extent_append {text rest : List Char} (passed : IsPassed 0 text)
    (isRest : IsRest rest) : extent 0 .outside (text ++ rest) = text := by
  rw [passed rest]
  cases rest with
  | nil => simp [extent]
  | cons character others =>
      have stops : extent 0 .outside (character :: others) = [] := by
        rcases isRest character rfl with rfl | rfl | rfl <;> simp [extent]
      rw [stops, List.append_nil]

/-- So it can be told apart from this rest. -/
theorem IsPassed.append_inj {first second rest others : List Char}
    (firstPassed : IsPassed 0 first) (secondPassed : IsPassed 0 second)
    (isRest : IsRest rest) (areOthers : IsRest others)
    (same : first ++ rest = second ++ others) : first = second ∧ rest = others := by
  have sameText : first = second := by
    rw [← firstPassed.extent_append isRest, same, secondPassed.extent_append areOthers]
  subst sameText
  exact ⟨rfl, List.append_cancel_left same⟩

/-- What follows the first of some texts with commas between them. -/
def afterFirst : List (List Char) → List Char
  | [] => []
  | next :: others => ',' :: Text.joinWith [','] (next :: others)

theorem joinWith_cons (text : List Char) (others : List (List Char)) :
    Text.joinWith [','] (text :: others) = text ++ afterFirst others := by
  cases others <;> simp [Text.joinWith, afterFirst]

theorem isRest_afterFirst (others : List (List Char)) : IsRest (afterFirst others) := by
  cases others <;> simp [IsRest, afterFirst]

/-- Texts that a scanner goes through, with commas between them, are the same
together only if they are the same one by one. -/
theorem joinWith_inj {first second : List (List Char)}
    (firstPassed : ∀ text ∈ first, text ≠ [] ∧ IsPassed 0 text)
    (secondPassed : ∀ text ∈ second, text ≠ [] ∧ IsPassed 0 text)
    (same : Text.joinWith [','] first = Text.joinWith [','] second) : first = second := by
  induction first generalizing second with
  | nil =>
      cases second with
      | nil => rfl
      | cons text others =>
          rw [joinWith_cons] at same
          exact absurd (List.append_eq_nil_iff.mp same.symm).1
            (secondPassed text List.mem_cons_self).1
  | cons text others ih =>
      cases second with
      | nil =>
          rw [joinWith_cons] at same
          exact absurd (List.append_eq_nil_iff.mp same).1 (firstPassed text List.mem_cons_self).1
      | cons secondText secondOthers =>
          rw [joinWith_cons, joinWith_cons] at same
          obtain ⟨sameText, sameRest⟩ := IsPassed.append_inj
            (firstPassed text List.mem_cons_self).2 (secondPassed secondText List.mem_cons_self).2
            (isRest_afterFirst others) (isRest_afterFirst secondOthers) same
          have sameOthers : Text.joinWith [','] others = Text.joinWith [','] secondOthers := by
            cases others <;> cases secondOthers <;> simp_all [afterFirst, Text.joinWith]
          rw [sameText, ih (fun text member => firstPassed text (List.mem_cons_of_mem _ member))
            (fun text member => secondPassed text (List.mem_cons_of_mem _ member)) sameOthers]

/-- Only null is written with an `n` in front, and every value is written. -/
theorem exists_characters_eq_cons {value : Json} (notNull : value ≠ .null) :
    ∃ character others, value.characters = character :: others ∧ character ≠ 'n' := by
  have ofNumeric {text : List Char} (numeric : Number.IsNumeric text) (written : text ≠ []) :
      ∃ character others, text = character :: others ∧ character ≠ 'n' := by
    cases text with
    | nil => exact absurd rfl written
    | cons character others =>
        refine ⟨character, others, rfl, ?_⟩
        rintro rfl
        exact absurd (numeric 'n' List.mem_cons_self) (by decide)
  cases value with
  | null => exact absurd rfl notNull
  | bool value => cases value <;> exact ⟨_, _, rfl, by decide⟩
  | integer value =>
      refine ofNumeric (Number.isNumeric_integer value) ?_
      cases value with
      | ofNat number => exact Nat.toDigits_ne_nil
      | negSucc number => exact List.cons_ne_nil _ _
  | double number =>
      by_cases isReal : number.isFinite = true
      · exact ofNumeric (Number.Layout.isNumeric_double _ isReal)
          (Number.Layout.row_double_ne_nil number)
      · change ∃ character others, Number.Layout.row.double number = _ ∧ _
        unfold Number.Layout.double
        dsimp only
        rw [if_neg isReal]
        split
        · split <;> exact ⟨_, _, rfl, by decide⟩
        · exact ⟨_, _, rfl, by decide⟩
  | string value => exact ⟨_, _, rfl, by decide⟩
  | array elements => exact ⟨_, _, rfl, by decide⟩
  | object members => exact ⟨_, _, rfl, by decide⟩

theorem characters_ne_nil (value : Json) : value.characters ≠ [] := by
  by_cases isNull : value = .null
  · rw [isNull]
    exact List.cons_ne_nil _ _
  · obtain ⟨character, others, written, _⟩ := exists_characters_eq_cons isNull
    rw [written]
    exact List.cons_ne_nil _ _

theorem elementCharacters_eq_joinWith (elements : List Json) :
    elementCharacters elements = Text.joinWith [','] (elements.map characters) := by
  induction elements with
  | nil => rfl
  | cons element others ih =>
      cases others with
      | nil => rfl
      | cons next others =>
          rw [elementCharacters, ih]
          simp [Text.joinWith]

def memberText (key : String) (value : List Char) : List Char :=
  stringText key ++ ':' :: value

theorem memberCharacters_eq_joinWith (members : List (String × Json)) :
    memberCharacters members =
      Text.joinWith [','] (members.map fun member => memberText member.1 member.2.characters) := by
  induction members with
  | nil => rfl
  | cons member others ih =>
      cases others with
      | nil => rfl
      | cons next others =>
          rw [memberCharacters, ih]
          simp [Text.joinWith, memberText]

/-- Arrays are written alike only if their elements are. -/
theorem characters_array_inj {first second : List Json} :
    (array first).characters = (array second).characters ↔
      first.map characters = second.map characters := by
  have passed (elements : List Json) :
      ∀ text ∈ elements.map characters, text ≠ [] ∧ IsPassed 0 text := by
    intro text member
    obtain ⟨element, _, rfl⟩ := List.mem_map.mp member
    exact ⟨characters_ne_nil element, isPassed_characters 0 element⟩
  simp only [characters, elementCharacters_eq_joinWith, List.cons_append, List.cons.injEq,
    true_and, List.append_cancel_right_eq]
  exact ⟨joinWith_inj (passed first) (passed second), congrArg _⟩

theorem map_memberText_zip_inj {keys : List String} {first second : List Json}
    (firstLength : first.length = keys.length) (secondLength : second.length = keys.length)
    (same : ((keys.zip first).map fun member => memberText member.1 member.2.characters) =
      (keys.zip second).map fun member => memberText member.1 member.2.characters) :
    first.map characters = second.map characters := by
  induction keys generalizing first second with
  | nil => rw [List.length_eq_zero_iff.mp firstLength, List.length_eq_zero_iff.mp secondLength]
  | cons key keys ih =>
      obtain ⟨value, others, rfl⟩ := List.exists_cons_of_length_eq_add_one firstLength
      obtain ⟨secondValue, secondOthers, rfl⟩ := List.exists_cons_of_length_eq_add_one secondLength
      obtain ⟨sameMember, sameOthers⟩ := List.cons.inj same
      have sameValue : ':' :: value.characters = ':' :: secondValue.characters :=
        List.append_cancel_left sameMember
      rw [List.map_cons, List.map_cons, (List.cons.inj sameValue).2,
        ih (by simpa using firstLength) (by simpa using secondLength) sameOthers]

/-- Objects with the same keys are written alike only if their values are. -/
theorem characters_object_inj {keys : List String} {first second : List Json}
    (firstLength : first.length = keys.length) (secondLength : second.length = keys.length) :
    (object (keys.zip first)).characters = (object (keys.zip second)).characters ↔
      first.map characters = second.map characters := by
  have passed (members : List (String × Json)) :
      ∀ text ∈ members.map fun member => memberText member.1 member.2.characters,
        text ≠ [] ∧ IsPassed 0 text := by
    intro text isMember
    obtain ⟨member, _, rfl⟩ := List.mem_map.mp isMember
    refine ⟨by simp [memberText], (isPassed_stringText 0 member.1).append (.cons ?_ ?_)⟩
    · intro rest
      simp [extent]
    · exact isPassed_characters 0 member.2
  simp only [characters, memberCharacters_eq_joinWith, List.cons_append, List.cons.injEq,
    true_and, List.append_cancel_right_eq]
  constructor
  · intro same
    exact map_memberText_zip_inj firstLength secondLength (joinWith_inj (passed _) (passed _) same)
  · intro sameValues
    have written (values : List Json) :
        ((keys.zip values).map fun member => memberText member.1 member.2.characters) =
          List.zipWith memberText keys (values.map characters) := by
      rw [List.zipWith_map_right, ← List.map_uncurry_zip_eq_zipWith]
      rfl
    rw [written, written, sameValues]

end LearnExport.Json
