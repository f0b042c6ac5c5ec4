import LearnExport.Format.Accept
import LearnExport.Proofs.Text.Spelling

/-!
# What a header states

A header is cut at its commas and each piece at its semicolons. A piece whose
first part is not blank is an entry for the range in that part, with the weight
that the last of its parameters named `q` gives it. A header is malformed if the
value of such a parameter of an entry is no number, whether it counts or not;
otherwise its entries are read as they are stated.
-/

namespace LearnExport.Accept

/-- The pieces of a header between commas, each cut at its semicolons. -/
def parts (header : List Char) : List (List (List Char)) :=
  (Text.pieces ',' header).map (Text.pieces ';')

/-- The media range of a piece, empty if the piece is no entry. -/
def rangeOf (piece : List (List Char)) : List Char :=
  Text.trim (piece.headD [])

/-- That a name, in any case and with white space around it, is `q`. -/
def NamesWeight (name : List Char) : Prop :=
  Text.lowerCase (Text.trim name) = ['q']

instance (name : List Char) : Decidable (NamesWeight name) :=
  inferInstanceAs (Decidable (_ = _))

/-- The value of a parameter that gives a weight. -/
def weightText? (parameter : List Char) : Option (List Char) :=
  match Text.splitAtFirst '=' parameter with
  | some (name, value) => if NamesWeight name then some (Text.trim value) else none
  | none => none

def weightTexts (piece : List (List Char)) : List (List Char) :=
  piece.tail.filterMap weightText?

/-- The weight that the last of some values denotes, or the given one if there are
none. -/
def lastWeight? (weight : Weight) (texts : List (List Char)) : Option Weight :=
  match texts.getLast? with
  | none => some weight
  | some text => Weight.parse? text

/-- The weight of a piece, if its last value is a number. -/
def statedWeight? (piece : List (List Char)) : Option Weight :=
  lastWeight? .one (weightTexts piece)

def entryOf? (piece : List (List Char)) : Option Entry :=
  if rangeOf piece = [] then none
  else (statedWeight? piece).map fun weight => ⟨rangeOf piece, weight⟩

def statedEntries (pieces : List (List (List Char))) : List Entry :=
  pieces.filterMap entryOf?

/-- That a piece is an entry with a weight that is no number. -/
def IsMalformed (piece : List (List Char)) : Prop :=
  rangeOf piece ≠ [] ∧ ∃ text ∈ weightTexts piece, Weight.parse? text = none

instance (piece : List (List Char)) : Decidable (IsMalformed piece) :=
  inferInstanceAs (Decidable (_ ∧ _))

theorem namesWeight_iff {name : List Char} :
    Text.sameIgnoringCase (Text.trim name) ['q'] = true ↔ NamesWeight name :=
  Text.sameIgnoringCase_iff

theorem applyParameter_of_other {parameter : List Char} (other : weightText? parameter = none)
    (weight : Weight) : applyParameter weight parameter = .ok weight := by
  cases cut : Text.splitAtFirst '=' parameter with
  | none => simp [applyParameter, cut]
  | some nameAndValue =>
      obtain ⟨name, value⟩ := nameAndValue
      have notWeight : ¬ NamesWeight name := by simpa [weightText?, cut] using other
      simp only [applyParameter, cut]
      rw [if_neg (mt namesWeight_iff.mp notWeight)]

theorem applyParameter_of_weight {parameter text : List Char}
    (isWeight : weightText? parameter = some text) (weight : Weight) :
    (∃ given, Weight.parse? text = some given ∧
      applyParameter weight parameter = .ok given) ∨
    (Weight.parse? text = none ∧
      ∃ value, applyParameter weight parameter = .error (.badWeight value)) := by
  cases cut : Text.splitAtFirst '=' parameter with
  | none => simp [weightText?, cut] at isWeight
  | some nameAndValue =>
      obtain ⟨name, value⟩ := nameAndValue
      simp only [weightText?, cut, Option.ite_none_right_eq_some, Option.some.injEq] at isWeight
      obtain ⟨names, rfl⟩ := isWeight
      simp only [applyParameter, cut]
      rw [if_pos (namesWeight_iff.mpr names)]
      cases Weight.parse? (Text.trim value) with
      | none => exact .inr ⟨rfl, _, rfl⟩
      | some given => exact .inl ⟨given, rfl, rfl⟩

theorem lastWeight?_cons {text : List Char} {given : Weight}
    (isNumber : Weight.parse? text = some given) (weight : Weight) (texts : List (List Char)) :
    lastWeight? weight (text :: texts) = lastWeight? given texts := by
  rw [lastWeight?, lastWeight?, List.getLast?_cons]
  cases texts.getLast? with
  | none => exact isNumber
  | some last => rfl

/-- Parameters that give numbers only are read as the last of these. -/
theorem exists_weightOf_eq_ok {parameters : List (List Char)}
    (numbers : ∀ text ∈ parameters.filterMap weightText?, Weight.parse? text ≠ none)
    (weight : Weight) :
    ∃ last, lastWeight? weight (parameters.filterMap weightText?) = some last ∧
      weightOf weight parameters = .ok last := by
  induction parameters generalizing weight with
  | nil => exact ⟨weight, rfl, rfl⟩
  | cons parameter others ih =>
      cases gives : weightText? parameter with
      | none =>
          rw [List.filterMap_cons_none gives] at numbers ⊢
          rw [weightOf, applyParameter_of_other gives]
          exact ih numbers weight
      | some text =>
          rw [List.filterMap_cons_some gives] at numbers ⊢
          obtain ⟨isNumber, othersNumbers⟩ := List.forall_mem_cons.mp numbers
          -- A number is the weight so far for the parameters that follow.
          rcases applyParameter_of_weight gives weight with ⟨given, parsed, applied⟩ | ⟨failed, _⟩
          · rw [weightOf, applied, lastWeight?_cons parsed]
            exact ih othersNumbers given
          · exact absurd failed isNumber

theorem exists_weightOf_eq_error {parameters : List (List Char)}
    (malformed : ∃ text ∈ parameters.filterMap weightText?, Weight.parse? text = none)
    (weight : Weight) :
    ∃ value, weightOf weight parameters = .error (.badWeight value) := by
  induction parameters generalizing weight with
  | nil => simp at malformed
  | cons parameter others ih =>
      cases gives : weightText? parameter with
      | none =>
          rw [List.filterMap_cons_none gives] at malformed
          rw [weightOf, applyParameter_of_other gives]
          exact ih malformed weight
      | some text =>
          rw [List.filterMap_cons_some gives] at malformed
          rcases applyParameter_of_weight gives weight with
            ⟨given, parsed, applied⟩ | ⟨_, value, refused⟩
          · have othersMalformed :
                ∃ text ∈ others.filterMap weightText?, Weight.parse? text = none := by
              simpa [parsed] using malformed
            rw [weightOf, applied]
            exact ih othersMalformed given
          · exact ⟨value, by rw [weightOf, refused]⟩

/-- An entry that is not malformed has a weight, and it is read as stated. -/
theorem exists_statedWeight?_eq_some {piece : List (List Char)} (hasRange : rangeOf piece ≠ [])
    (wellFormed : ¬ IsMalformed piece) :
    ∃ weight, statedWeight? piece = some weight ∧ weightOf .one piece.tail = .ok weight :=
  exists_weightOf_eq_ok
    (fun text member failed => wellFormed ⟨hasRange, text, member, failed⟩) .one

theorem entryOf?_eq_some {piece : List (List Char)} {weight : Weight}
    (hasRange : rangeOf piece ≠ []) (stated : statedWeight? piece = some weight) :
    entryOf? piece = some ⟨rangeOf piece, weight⟩ := by
  rw [entryOf?, if_neg hasRange, stated]
  rfl

theorem statedEntries_eq_nil_iff {pieces : List (List (List Char))}
    (wellFormed : ∀ piece ∈ pieces, ¬ IsMalformed piece) :
    statedEntries pieces = [] ↔ ∀ piece ∈ pieces, rangeOf piece = [] := by
  rw [statedEntries, List.filterMap_eq_nil_iff]
  refine forall₂_congr fun piece member => ?_
  by_cases isBlank : rangeOf piece = []
  · simp [entryOf?, isBlank]
  · obtain ⟨weight, stated, _⟩ := exists_statedWeight?_eq_some isBlank (wellFormed piece member)
    simp [entryOf?_eq_some isBlank stated, isBlank]

section Pieces

variable {piece : List Char}

theorem readEntry_of_blank (isBlank : rangeOf (Text.pieces ';' piece) = []) :
    readEntry piece = .ok none :=
  if_pos (List.isEmpty_iff.mpr isBlank)

theorem readEntry_of_range (hasRange : rangeOf (Text.pieces ';' piece) ≠ []) :
    readEntry piece = (weightOf .one (Text.pieces ';' piece).tail).map fun weight =>
      some ⟨rangeOf (Text.pieces ';' piece), weight⟩ :=
  if_neg (mt List.isEmpty_iff.mp hasRange)

theorem readEntry_eq_ok (wellFormed : ¬ IsMalformed (Text.pieces ';' piece)) :
    readEntry piece = .ok (entryOf? (Text.pieces ';' piece)) := by
  by_cases isBlank : rangeOf (Text.pieces ';' piece) = []
  · rw [readEntry_of_blank isBlank, entryOf?, if_pos isBlank]
  · obtain ⟨weight, stated, read⟩ := exists_statedWeight?_eq_some isBlank wellFormed
    rw [readEntry_of_range isBlank, read, entryOf?_eq_some isBlank stated]
    rfl

theorem exists_readEntry_eq_error (malformed : IsMalformed (Text.pieces ';' piece)) :
    ∃ value, readEntry piece = .error (.badWeight value) := by
  obtain ⟨hasRange, notNumber⟩ := malformed
  obtain ⟨value, refused⟩ := exists_weightOf_eq_error notNumber .one
  exact ⟨value, by rw [readEntry_of_range hasRange, refused]; rfl⟩

end Pieces

theorem readEntries_eq_ok {pieces : List (List Char)}
    (wellFormed : ∀ piece ∈ pieces, ¬ IsMalformed (Text.pieces ';' piece)) :
    readEntries pieces = .ok (statedEntries (pieces.map (Text.pieces ';'))) := by
  induction pieces with
  | nil => rfl
  | cons piece others ih =>
      obtain ⟨pieceWellFormed, othersWellFormed⟩ := List.forall_mem_cons.mp wellFormed
      simp only [readEntries, readEntry_eq_ok pieceWellFormed, ih othersWellFormed, Except.map,
        statedEntries, List.map_cons, List.filterMap_cons]
      cases entryOf? (Text.pieces ';' piece) <;> rfl

theorem exists_readEntries_eq_error {pieces : List (List Char)}
    (malformed : ∃ piece ∈ pieces, IsMalformed (Text.pieces ';' piece)) :
    ∃ value, readEntries pieces = .error (.badWeight value) := by
  induction pieces with
  | nil => simp at malformed
  | cons piece others ih =>
      by_cases here : IsMalformed (Text.pieces ';' piece)
      · obtain ⟨value, refused⟩ := exists_readEntry_eq_error here
        exact ⟨value, by rw [readEntries, refused]⟩
      · obtain ⟨value, refused⟩ := ih (by simpa [here] using malformed)
        refine ⟨value, ?_⟩
        rw [readEntries, readEntry_eq_ok here, refused]
        rfl

/-- A header without malformed entries is read as the entries that it states. -/
theorem entries_eq_ok {header : List Char}
    (wellFormed : ∀ piece ∈ parts header, ¬ IsMalformed piece) :
    entries header = .ok (statedEntries (parts header)) :=
  readEntries_eq_ok fun _ member => wellFormed _ (List.mem_map_of_mem member)

theorem exists_entries_eq_error {header : List Char}
    (malformed : ∃ piece ∈ parts header, IsMalformed piece) :
    ∃ value, entries header = .error (.badWeight value) :=
  exists_readEntries_eq_error (by simpa [parts] using malformed)

end LearnExport.Accept
