import LearnExport.Proofs.Format.Choice
import Mathlib.Logic.Relation

/-!
# Headers that mean the same

A header may be written in other ways that say the same: with blank entries, with
white space around its parts and around the equals sign of a weight, with ranges
and the name `q` in any case, with parameters that give no weight, and with its
entries in another order as long as those of one positive weight keep theirs.
However many of these changes are made, the outcome is the same format or the same
kind of error.

The changes of one entry keep its range up to case and the values of its weights.
A new order of the entries keeps the order of those that are ranked alike and the
set of those that refuse, wherever they stand.
-/

namespace LearnExport.Accept

/-- That a parameter is a name and a value, the name being that of a weight. -/
def IsWeightParameter (parameter : List Char) : Prop :=
  ∃ name value, parameter = name ++ '=' :: value ∧ '=' ∉ name ∧ NamesWeight name

/-- A change of one entry, which is given by its parts. -/
inductive EntryRewrite : List (List Char) → List (List Char) → Prop
  /-- White space is put around a part. -/
  | space {start stop : List Char}
      (startBlank : ∀ character ∈ start, Text.isBlank character = true)
      (stopBlank : ∀ character ∈ stop, Text.isBlank character = true)
      (before after : List (List Char)) (part : List Char) :
      EntryRewrite (before ++ part :: after) (before ++ (start ++ part ++ stop) :: after)
  /-- White space is put around the equals sign of a weight. -/
  | weightSpace {name start stop : List Char} (namesWeight : NamesWeight name)
      (whole : '=' ∉ name)
      (startBlank : ∀ character ∈ start, Text.isBlank character = true)
      (stopBlank : ∀ character ∈ stop, Text.isBlank character = true)
      (range : List Char) (before after : List (List Char)) (value : List Char) :
      EntryRewrite (range :: (before ++ (name ++ '=' :: value) :: after))
        (range :: (before ++ (name ++ start ++ '=' :: (stop ++ value)) :: after))
  /-- The media range is written in another case. -/
  | rangeCase {range other : List Char} (sameLetters : Text.lowerCase range = Text.lowerCase other)
      (parameters : List (List Char)) :
      EntryRewrite (range :: parameters) (other :: parameters)
  /-- The name of a weight is written in another case. -/
  | weightCase {name other : List Char} (namesWeight : NamesWeight name) (whole : '=' ∉ name)
      (sameLetters : Text.lowerCase name = Text.lowerCase other)
      (range : List Char) (before after : List (List Char)) (value : List Char) :
      EntryRewrite (range :: (before ++ (name ++ '=' :: value) :: after))
        (range :: (before ++ (other ++ '=' :: value) :: after))
  /-- A parameter that gives no weight is added. -/
  | parameter {added : List Char} (notWeight : ¬ IsWeightParameter added)
      (range : List Char) (before after : List (List Char)) :
      EntryRewrite (range :: (before ++ after)) (range :: (before ++ added :: after))

/-- The entries among some pieces that have the given weight, in order. -/
def ofWeight (weight : Weight) (pieces : List (List (List Char))) : List (List (List Char)) :=
  pieces.filter fun piece => rangeOf piece ≠ [] ∧ statedWeight? piece = some weight

/-- A change of a header, which is given by the parts of its pieces. -/
inductive Rewrite : List (List (List Char)) → List (List (List Char)) → Prop
  /-- A piece without a media range is added. -/
  | blankEntry {piece : List (List Char)} (isBlank : rangeOf piece = [])
      (before after : List (List (List Char))) :
      Rewrite (before ++ after) (before ++ piece :: after)
  /-- One piece is changed. -/
  | entry {piece changed : List (List Char)} (rewritten : EntryRewrite piece changed)
      (before after : List (List (List Char))) :
      Rewrite (before ++ piece :: after) (before ++ changed :: after)
  /-- The pieces are put into another order, but the entries of any one positive
  weight are not. -/
  | order {first second : List (List (List Char))} (rearranged : first.Perm second)
      (keepsOrder : ∀ weight : Weight, weight.isPositive = true →
        ofWeight weight first = ofWeight weight second) :
      Rewrite first second

/-- That a header is turned into another by any number of changes, each made or
undone. -/
def Rewritten : List Char → List Char → Prop :=
  Relation.EqvGen (InvImage Rewrite parts)

/-- That two outcomes are the same format or the same kind of error. -/
structure SameOutcome (first second : Except ApiError Format) : Prop where
  chosen_iff : ∀ format, first = .ok format ↔ second = .ok format
  badRequest_iff : (∃ fault, first = .error (.badRequest fault)) ↔
    ∃ fault, second = .error (.badRequest fault)
  notAcceptable_iff : (∃ requested, first = .error (.notAcceptable requested)) ↔
    ∃ requested, second = .error (.notAcceptable requested)

section Parameters

theorem weightText?_append {name : List Char} (whole : '=' ∉ name) (value : List Char) :
    weightText? (name ++ '=' :: value) =
      if NamesWeight name then some (Text.trim value) else none := by
  rw [weightText?, Text.splitAtFirst_append whole]

theorem weightText?_eq_none_iff {parameter : List Char} :
    weightText? parameter = none ↔ ¬ IsWeightParameter parameter := by
  constructor
  · rintro none ⟨name, value, rfl, whole, names⟩
    rw [weightText?_append whole, if_pos names] at none
    exact Option.some_ne_none _ none
  · intro notWeight
    cases cut : Text.splitAtFirst '=' parameter with
    | none => rw [weightText?, cut]
    | some nameAndValue =>
        obtain ⟨whole, joined⟩ := Text.splitAtFirst_eq_some_iff.mp cut
        rw [joined, weightText?_append whole, if_neg]
        exact fun names => notWeight ⟨_, _, joined, whole, names⟩

variable {start stop : List Char}
  (startBlank : ∀ character ∈ start, Text.isBlank character = true)
  (stopBlank : ∀ character ∈ stop, Text.isBlank character = true)

include startBlank in
theorem equals_not_mem_of_blank : '=' ∉ start :=
  fun member => absurd (startBlank _ member) (by decide)

include startBlank stopBlank in
theorem weightText?_space (parameter : List Char) :
    weightText? (start ++ parameter ++ stop) = weightText? parameter := by
  have noneInStart := equals_not_mem_of_blank startBlank
  cases cut : Text.splitAtFirst '=' parameter with
  | none =>
      have noneInside := Text.splitAtFirst_eq_none_iff.mp cut
      have none : Text.splitAtFirst '=' (start ++ parameter ++ stop) = none := by
        simp [Text.splitAtFirst_eq_none_iff, noneInStart, noneInside,
          equals_not_mem_of_blank stopBlank]
      rw [weightText?, weightText?, cut, none]
  | some nameAndValue =>
      obtain ⟨name, value⟩ := nameAndValue
      obtain ⟨whole, rfl⟩ := Text.splitAtFirst_eq_some_iff.mp cut
      have wholeSpaced : '=' ∉ start ++ name := by simp [noneInStart, whole]
      have respaced : start ++ (name ++ '=' :: value) ++ stop =
          (start ++ name) ++ '=' :: (value ++ stop) := by simp
      have sameName : NamesWeight (start ++ name) ↔ NamesWeight name := by
        rw [NamesWeight, Text.trim_append_left startBlank]
        rfl
      rw [respaced, weightText?_append wholeSpaced, weightText?_append whole,
        Text.trim_append_right stopBlank]
      simp only [sameName]

end Parameters

theorem weightTexts_replace {parameter other : List Char}
    (same : weightText? parameter = weightText? other) (range : List Char)
    (before after : List (List Char)) :
    weightTexts (range :: (before ++ parameter :: after)) =
      weightTexts (range :: (before ++ other :: after)) := by
  simp only [weightTexts, List.tail_cons, List.filterMap_append, List.filterMap_cons, same]

/-- What matters of an entry are its range up to case and its weights, and no change
of the entry touches them. -/
theorem EntryRewrite.keeps {piece changed : List (List Char)}
    (rewritten : EntryRewrite piece changed) :
    Text.lowerCase (rangeOf piece) = Text.lowerCase (rangeOf changed) ∧
      weightTexts piece = weightTexts changed := by
  cases rewritten with
  | space startBlank stopBlank before after part =>
      cases before with
      | nil =>
          have trimmed := Text.trim_append startBlank stopBlank part
          exact ⟨by simp only [rangeOf, List.nil_append, List.headD_cons, trimmed], rfl⟩
      | cons range others =>
          have sameWeight := (weightText?_space startBlank stopBlank part).symm
          exact ⟨rfl, weightTexts_replace sameWeight range others after⟩
  | @weightSpace name start stop namesWeight whole startBlank stopBlank range before after value =>
      have wholeSpaced : '=' ∉ name ++ start := by
        simp [whole, equals_not_mem_of_blank startBlank]
      have namesSpaced : NamesWeight (name ++ start) := by
        rwa [NamesWeight, Text.trim_append_right startBlank]
      have sameWeight : weightText? (name ++ '=' :: value) =
          weightText? (name ++ start ++ '=' :: (stop ++ value)) := by
        rw [weightText?_append whole, weightText?_append wholeSpaced, if_pos namesWeight,
          if_pos namesSpaced, Text.trim_append_left stopBlank]
      exact ⟨rfl, weightTexts_replace sameWeight range before after⟩
  | rangeCase sameLetters parameters =>
      refine ⟨?_, rfl⟩
      simp only [rangeOf, List.headD_cons, ← Text.trim_lowerCase, sameLetters]
  | @weightCase name other namesWeight whole sameLetters range before after value =>
      have otherWhole : '=' ∉ other := by
        rw [← Text.mem_lowerCase_iff (by decide), ← sameLetters,
          Text.mem_lowerCase_iff (by decide)]
        exact whole
      have otherNames : NamesWeight other := by
        rwa [NamesWeight, ← Text.trim_lowerCase, ← sameLetters, Text.trim_lowerCase]
      have sameWeight : weightText? (name ++ '=' :: value) =
          weightText? (other ++ '=' :: value) := by
        rw [weightText?_append whole, weightText?_append otherWhole, if_pos namesWeight,
          if_pos otherNames]
      exact ⟨rfl, weightTexts_replace sameWeight range before after⟩
  | parameter notWeight range before after =>
      exact ⟨rfl, by simp [weightTexts, weightText?_eq_none_iff.mpr notWeight]⟩

section Case

def Entry.lowered (entry : Entry) : Entry :=
  { entry with range := Text.lowerCase entry.range }

theorem covers_lowerCase (range : List Char) (format : Format) :
    covers (Text.lowerCase range) format = covers range format := by
  rw [Bool.eq_iff_iff, covers_iff, covers_iff, CoversFormat, Text.lowerCase_lowerCase]
  rfl

theorem refuses_lowered (entry : Entry) (format : Format) :
    entry.lowered.refuses format = entry.refuses format := by
  have sameStar : (Text.lowerCase entry.range).contains '*' = entry.range.contains '*' := by
    simp [Text.mem_lowerCase_iff]
  simp only [Entry.refuses, Entry.lowered, covers_lowerCase, sameStar]

theorem isRefused_map_lowered (all : List Entry) (format : Format) :
    isRefused (all.map Entry.lowered) format = isRefused all format := by
  simp only [isRefused, List.any_map, Function.comp_def, refuses_lowered]

theorem offer?_lowered (all : List Entry) (entry : Entry) :
    entry.lowered.offer? (all.map Entry.lowered) = entry.offer? all := by
  simp only [Entry.offer?, isRefused_map_lowered, Entry.lowered, covers_lowerCase]

theorem ranked_map_lowered (all : List Entry) :
    ranked (all.map Entry.lowered) = (ranked all).map Entry.lowered := by
  have sameRank (entry : Entry) : entry.lowered.rank = entry.rank := rfl
  rw [ranked_eq_sortedByRank, ranked_eq_sortedByRank, List.filter_map]
  exact (map_sortedByRank Entry.rank sameRank _).symm

theorem choose?_map_lowered (all : List Entry) :
    choose? (all.map Entry.lowered) = choose? all := by
  simp only [choose?, List.isEmpty_map, ranked_map_lowered, List.findSome?_map,
    Function.comp_def, offer?_lowered]

end Case

section Order

theorem weight_eq_of_isPositive {first second : Weight} (firstPositive : first.isPositive = true)
    (secondPositive : second.isPositive = true) (same : first.magnitude = second.magnitude) :
    first = second := by
  cases first
  cases second
  simp_all [Weight.isPositive]

variable {first second : List Entry}

theorem refused_perm (rearranged : first.Perm second) (format : Format) :
    isRefused first format = isRefused second format := by
  rw [Bool.eq_iff_iff, isRefused_iff, isRefused_iff]
  exact exists_congr fun entry => and_congr_left fun _ => rearranged.mem_iff

/-- Entries are ranked alike in any order that keeps the order of those of one
positive weight. -/
theorem ranked_eq_of_keepsOrder
    (keepsOrder : ∀ weight : Weight, weight.isPositive = true →
      first.filter (fun entry => entry.weight = weight) =
        second.filter fun entry => entry.weight = weight) :
    ranked first = ranked second := by
  rw [ranked_eq_sortedByRank, ranked_eq_sortedByRank]
  apply sortedByRank_eq_of_ofRank_eq
  intro place
  rw [ofRank, ofRank, List.filter_filter, List.filter_filter]
  -- The entries of a rank are those of one positive weight, or there are none.
  by_cases isWeight : ∃ weight : Weight, weight.isPositive = true ∧ place = ⟨-weight.magnitude, 0⟩
  · obtain ⟨weight, positive, rfl⟩ := isWeight
    have chosen (entry : Entry) :
        (decide (entry.rank = ⟨-weight.magnitude, 0⟩) && entry.weight.isPositive) =
          decide (entry.weight = weight) := by
      rw [Bool.eq_iff_iff, Bool.and_eq_true, decide_eq_true_eq, decide_eq_true_eq]
      constructor
      · rintro ⟨sameRank, entryPositive⟩
        have samePlace : -(entry.weight.magnitude : Int) = -weight.magnitude :=
          congrArg Rank.place sameRank
        exact weight_eq_of_isPositive entryPositive positive (by omega)
      · rintro rfl
        exact ⟨rfl, positive⟩
    simp only [chosen]
    exact keepsOrder weight positive
  · have noneChosen (entries : List Entry) :
        entries.filter (fun entry => decide (entry.rank = place) && entry.weight.isPositive) =
          [] := by
      refine List.filter_eq_nil_iff.mpr fun entry _ chosen => isWeight ⟨entry.weight, ?_⟩
      rw [Bool.and_eq_true, decide_eq_true_eq] at chosen
      exact ⟨chosen.2, chosen.1.symm⟩
    rw [noneChosen, noneChosen]

theorem choose?_eq_of_perm (rearranged : first.Perm second)
    (keepsOrder : ∀ weight : Weight, weight.isPositive = true →
      first.filter (fun entry => entry.weight = weight) =
        second.filter fun entry => entry.weight = weight) :
    choose? first = choose? second := by
  have sameRefusals : isRefused first = isRefused second :=
    funext (refused_perm rearranged)
  simp only [choose?, Entry.offer?, sameRefusals, ranked_eq_of_keepsOrder keepsOrder,
    rearranged.isEmpty_eq]

end Order

/-- What the outcome of a header depends on: whether some piece is malformed, and what
is chosen. -/
structure Alike (first second : List (List (List Char))) : Prop where
  malformed_iff : (∃ piece ∈ first, IsMalformed piece) ↔ ∃ piece ∈ second, IsMalformed piece
  choose?_eq : choose? (statedEntries first) = choose? (statedEntries second)

namespace Alike

theorem refl (pieces : List (List (List Char))) : Alike pieces pieces :=
  ⟨Iff.rfl, rfl⟩

variable {first second third : List (List (List Char))}

theorem symm (alike : Alike first second) : Alike second first :=
  ⟨alike.malformed_iff.symm, alike.choose?_eq.symm⟩

theorem trans (alike : Alike first second) (further : Alike second third) : Alike first third :=
  ⟨alike.malformed_iff.trans further.malformed_iff, alike.choose?_eq.trans further.choose?_eq⟩

theorem of_blankEntry {piece : List (List Char)} (isBlank : rangeOf piece = [])
    (before after : List (List (List Char))) :
    Alike (before ++ after) (before ++ piece :: after) := by
  have wellFormed : ¬ IsMalformed piece := fun malformed => malformed.1 isBlank
  have noEntry : entryOf? piece = none := if_pos isBlank
  constructor
  · simp [or_and_right, exists_or, wellFormed]
  · simp [statedEntries, noEntry]

theorem of_entry {piece changed : List (List Char)} (rewritten : EntryRewrite piece changed)
    (before after : List (List (List Char))) :
    Alike (before ++ piece :: after) (before ++ changed :: after) := by
  obtain ⟨sameRange, sameWeights⟩ := rewritten.keeps
  have sameBlank : rangeOf piece = [] ↔ rangeOf changed = [] := by
    rw [← Text.lowerCase_eq_nil_iff, sameRange, Text.lowerCase_eq_nil_iff]
  have sameMalformed : IsMalformed piece ↔ IsMalformed changed := by
    rw [IsMalformed, IsMalformed, sameWeights, ne_eq, sameBlank]
  have sameLowered : (entryOf? piece).map Entry.lowered = (entryOf? changed).map Entry.lowered := by
    simp only [entryOf?, sameBlank, statedWeight?, sameWeights]
    split
    · rfl
    · simp [Entry.lowered, Function.comp_def, sameRange]
  constructor
  · simp [or_and_right, exists_or, sameMalformed]
  -- The entries differ in the case of one range at most.
  · rw [← choose?_map_lowered, ← choose?_map_lowered (statedEntries (before ++ changed :: after)),
      statedEntries, statedEntries, List.map_filterMap, List.map_filterMap]
    simp only [List.filterMap_append, List.filterMap_cons, sameLowered]

theorem filter_statedEntries (weight : Weight) (pieces : List (List (List Char))) :
    (statedEntries pieces).filter (fun entry => entry.weight = weight) =
      (ofWeight weight pieces).filterMap entryOf? := by
  apply filter_filterMap_of_agrees
  intro piece entry stated
  by_cases isBlank : rangeOf piece = []
  · simp [entryOf?, isBlank] at stated
  · simp only [entryOf?, if_neg isBlank, Option.map_eq_some_iff] at stated
    obtain ⟨own, ownWeight, rfl⟩ := stated
    simp [isBlank, ownWeight]

theorem of_order (rearranged : first.Perm second)
    (keepsOrder : ∀ weight : Weight, weight.isPositive = true →
      ofWeight weight first = ofWeight weight second) : Alike first second := by
  constructor
  · exact exists_congr fun piece => and_congr_left fun _ => rearranged.mem_iff
  · refine choose?_eq_of_perm (rearranged.filterMap entryOf?) fun weight positive => ?_
    rw [filter_statedEntries, filter_statedEntries, keepsOrder weight positive]

theorem of_rewrite (rewritten : Rewrite first second) : Alike first second := by
  cases rewritten with
  | blankEntry isBlank before after => exact of_blankEntry isBlank before after
  | entry changed before after => exact of_entry changed before after
  | order rearranged keepsOrder => exact of_order rearranged keepsOrder

theorem of_rewritten {header other : List Char} (rewritten : Rewritten header other) :
    Alike (parts header) (parts other) := by
  induction rewritten with
  | rel header other changed => exact of_rewrite changed
  | refl header => exact refl _
  | symm header other _ ih => exact ih.symm
  | trans header next other _ _ ih further => exact ih.trans further

theorem sameOutcome {header other : List Char} (alike : Alike (parts header) (parts other)) :
    SameOutcome (negotiate header) (negotiate other) := by
  by_cases malformed : ∃ piece ∈ parts header, IsMalformed piece
  · obtain ⟨fault, refused⟩ := exists_negotiate_eq_badRequest malformed
    obtain ⟨otherFault, otherRefused⟩ :=
      exists_negotiate_eq_badRequest (alike.malformed_iff.mp malformed)
    rw [refused, otherRefused]
    constructor <;> simp
  · have wellFormed : ∀ piece ∈ parts header, ¬ IsMalformed piece := by simpa using malformed
    have otherWellFormed : ∀ piece ∈ parts other, ¬ IsMalformed piece := by
      simpa using mt alike.malformed_iff.mpr malformed
    rw [negotiate_eq_elim wellFormed, negotiate_eq_elim otherWellFormed, alike.choose?_eq]
    cases choose? (statedEntries (parts other)) with
    | none => constructor <;> simp
    | some format => constructor <;> simp

end Alike

/-- Headers that differ by any number of changes that leave the meaning have the same
outcome. -/
theorem negotiate_sameOutcome_of_rewritten {first second : List Char}
    (rewritten : Rewritten first second) :
    SameOutcome (negotiate first) (negotiate second) :=
  (Alike.of_rewritten rewritten).sameOutcome

/-- A refusal moves in front of the range that it restricts, and is written with
another case, another space, another parameter and a blank entry behind it. -/
theorem sameOutcome_of_moved_refusal :
    Rewritten "*/*;q=0.5,text/csv;q=0".toList "Text/CSV;v=1;q= 0,,*/*;q=0.5".toList ∧
      SameOutcome (negotiate "*/*;q=0.5,text/csv;q=0".toList)
        (negotiate "Text/CSV;v=1;q= 0,,*/*;q=0.5".toList) := by
  let anything : List (List Char) := ["*/*".toList, "q=0.5".toList]
  let refusal : List (List Char) := ["text/csv".toList, "q=0".toList]
  have moved : Rewrite [anything, refusal] [refusal, anything] := by
    refine .order (List.Perm.swap _ _ []) fun weight positive => ?_
    have notRefusal : ofWeight weight [refusal] = [] := by
      refine List.filter_eq_nil_iff.mpr fun piece member stated => ?_
      rw [List.mem_singleton.mp member, decide_eq_true_eq] at stated
      have isZero : statedWeight? refusal = some ⟨false, 0⟩ := by decide
      rw [← Option.some.inj (isZero.symm.trans stated.2)] at positive
      exact absurd positive (by decide)
    have together (first second : List (List Char)) : ofWeight weight [first, second] =
        ofWeight weight [first] ++ ofWeight weight [second] :=
      List.filter_append [first] [second]
    rw [together, together, notRefusal, List.append_nil, List.nil_append]
  have cased : Rewrite [refusal, anything] [["Text/CSV".toList, "q=0".toList], anything] :=
    .entry (.rangeCase (by decide) _) [] _
  have spaced : Rewrite [["Text/CSV".toList, "q=0".toList], anything]
      [["Text/CSV".toList, "q= 0".toList], anything] :=
    .entry (@EntryRewrite.weightSpace ['q'] [] [' '] (by decide) (by decide)
      (List.forall_mem_nil _) (List.forall_mem_singleton.mpr rfl) _ [] [] ['0']) [] _
  have extended : Rewrite [["Text/CSV".toList, "q= 0".toList], anything]
      [["Text/CSV".toList, "v=1".toList, "q= 0".toList], anything] :=
    .entry (.parameter (weightText?_eq_none_iff.mp (by decide)) _ [] _) [] _
  have separated : Rewrite [["Text/CSV".toList, "v=1".toList, "q= 0".toList], anything]
      [["Text/CSV".toList, "v=1".toList, "q= 0".toList], [[]], anything] :=
    .blankEntry (by decide) [_] [_]
  have rewritten : Rewritten "*/*;q=0.5,text/csv;q=0".toList
      "Text/CSV;v=1;q= 0,,*/*;q=0.5".toList :=
    .trans _ "text/csv;q=0,*/*;q=0.5".toList _ (.rel _ _ moved)
      (.trans _ "Text/CSV;q=0,*/*;q=0.5".toList _ (.rel _ _ cased)
        (.trans _ "Text/CSV;q= 0,*/*;q=0.5".toList _ (.rel _ _ spaced)
          (.trans _ "Text/CSV;v=1;q= 0,*/*;q=0.5".toList _ (.rel _ _ extended)
            (.rel _ _ separated))))
  exact ⟨rewritten, negotiate_sameOutcome_of_rewritten rewritten⟩

end LearnExport.Accept
