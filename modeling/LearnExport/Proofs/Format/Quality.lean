import LearnExport.Proofs.Format.Choice
import Mathlib.Data.List.MinMax
import Mathlib.Data.List.Nodup
import Mathlib.Order.Nat

/-!
# The quality of a format

A header gives every format a quality: none if an entry for exactly its media
type has no positive weight, and otherwise the greatest weight of an entry that
covers it. The format chosen has the greatest quality of all, and nothing is
acceptable exactly if every format has none.

Only a refusal lets an exact type prevail over a heavier range that covers it
too. The weight of the closest entry would be another measure; it may be less than
the quality, and the format chosen need not have the greatest weight of that
kind.
-/

namespace LearnExport

/-- What a weight adds to the quality of a format: nothing unless it is
positive. -/
def Weight.worth (weight : Weight) : Nat :=
  if weight.isPositive then weight.magnitude else 0

theorem Weight.worth_pos_iff {weight : Weight} : 0 < weight.worth ↔ weight.isPositive = true := by
  unfold worth
  split
  · rename_i positive
    have notZero : 0 < weight.magnitude := by
      simp only [isPositive, Bool.and_eq_true, decide_eq_true_eq] at positive
      exact positive.1.2
    exact iff_of_true notZero positive
  · rename_i notPositive
    exact iff_of_false (lt_irrefl 0) notPositive

namespace Accept

def quality (all : List Entry) (format : Format) : Nat :=
  if Refused all format then 0
  else ((all.filter fun entry => CoversFormat entry.range format).map
    fun entry => entry.weight.worth).foldr max 0

/-- The entry whose range describes a format most closely. -/
def closest? (all : List Entry) (format : Format) : Option Entry :=
  format.ranges.findSome? fun range => all.find? fun entry => Text.lowerCase entry.range = range

/-- The weight of the closest entry, zero if no entry covers the format. -/
def closestQuality (all : List Entry) (format : Format) : Nat :=
  ((closest? all format).map fun entry => entry.weight.worth).getD 0

/-- That no range occurs twice, in whatever case. -/
def DistinctRanges (all : List Entry) : Prop :=
  (all.map fun entry => Text.lowerCase entry.range).Nodup

instance (all : List Entry) : Decidable (DistinctRanges all) :=
  inferInstanceAs (Decidable (List.Nodup _))

section Quality

variable {all : List Entry} {format : Format}

theorem quality_of_refused (refused : Refused all format) : quality all format = 0 :=
  if_pos refused

/-- The quality of a format that is not refused is the least bound of the weights
that cover it. -/
theorem quality_le_iff (notRefused : ¬ Refused all format) {bound : Nat} :
    quality all format ≤ bound ↔
      ∀ entry ∈ all, CoversFormat entry.range format → entry.weight.worth ≤ bound := by
  rw [quality, if_neg notRefused]
  constructor
  · intro bounded entry member covered
    have counted : entry.weight.worth ∈
        (all.filter fun entry => CoversFormat entry.range format).map
          fun entry => entry.weight.worth :=
      List.mem_map.mpr ⟨entry, List.mem_filter.mpr ⟨member, decide_eq_true covered⟩, rfl⟩
    exact le_trans (List.le_max_of_le counted le_rfl) bounded
  · intro bounded
    refine List.max_le_of_forall_le _ _ fun worth member => ?_
    obtain ⟨entry, kept, rfl⟩ := List.mem_map.mp member
    obtain ⟨listed, covered⟩ := List.mem_filter.mp kept
    exact bounded entry listed (of_decide_eq_true covered)

theorem worth_le_quality {entry : Entry} (notRefused : ¬ Refused all format)
    (member : entry ∈ all) (covered : CoversFormat entry.range format) :
    entry.weight.worth ≤ quality all format :=
  (quality_le_iff notRefused).mp le_rfl entry member covered

theorem quality_pos_iff :
    0 < quality all format ↔
      ∃ entry ∈ all, entry.weight.isPositive = true ∧ entry.Offers all format := by
  by_cases refused : Refused all format
  · simp [quality_of_refused refused, Entry.Offers, refused]
  · rw [← Nat.not_le, quality_le_iff refused]
    push Not
    simp only [Weight.worth_pos_iff, Entry.Offers, refused, not_false_eq_true, and_true]
    exact exists_congr fun entry => and_congr_right fun _ => and_comm

theorem IsBest.greatest {before after : List Entry} {entry : Entry}
    (best : IsBest all before entry after) (offers : entry.Offers all format) :
    0 < quality all format ∧ ∀ other, quality all other ≤ quality all format := by
  have member : entry ∈ all := best.split ▸ by simp
  have positive := best.contends.1
  refine ⟨quality_pos_iff.mpr ⟨entry, member, positive, offers⟩, fun other => ?_⟩
  by_cases refused : Refused all other
  · rw [quality_of_refused refused]
    exact Nat.zero_le _
  · refine le_trans ((quality_le_iff refused).mpr ?_) (worth_le_quality offers.2 member offers.1)
    intro competitor listed covered
    -- An entry that covers a format which is not refused contends if its weight is positive.
    by_cases asks : competitor.weight.isPositive = true
    · have notHeavier := best.magnitude_le listed ⟨asks, other, covered, refused⟩
      rwa [Weight.worth, if_pos asks, Weight.worth, if_pos positive]
    · rw [Weight.worth, if_neg asks]
      exact Nat.zero_le _

theorem choose?_greatest (nonempty : all ≠ []) (chosen : choose? all = some format) :
    0 < quality all format ∧ ∀ other, quality all other ≤ quality all format := by
  obtain ⟨before, entry, after, best, _, _, _, offers, _⟩ :=
    (choose?_eq_some_iff nonempty).mp chosen
  exact best.greatest offers

theorem choose?_eq_none_iff_quality (nonempty : all ≠ []) :
    choose? all = none ↔ ∀ format, quality all format = 0 := by
  rw [choose?_eq_none_iff nonempty]
  constructor
  · intro noneContends format
    refine Nat.eq_zero_of_not_pos fun some => ?_
    obtain ⟨entry, member, positive, offers⟩ := quality_pos_iff.mp some
    exact noneContends entry member ⟨positive, format, offers⟩
  · rintro noQuality entry member ⟨positive, format, offers⟩
    have some := quality_pos_iff.mpr ⟨entry, member, positive, offers⟩
    rw [noQuality format] at some
    exact lt_irrefl 0 some

theorem closest?_eq_some {entry : Entry} (found : closest? all format = some entry) :
    entry ∈ all ∧ CoversFormat entry.range format := by
  obtain ⟨range, isRange, foundRange⟩ := List.exists_of_findSome?_eq_some found
  have named : Text.lowerCase entry.range = range := by simpa using List.find?_some foundRange
  refine ⟨List.mem_of_find?_eq_some foundRange, ?_⟩
  rw [CoversFormat, named]
  exact isRange

/-- A refusal is the closest entry for its format. -/
theorem closestQuality_of_refused (distinct : DistinctRanges all) (refused : Refused all format) :
    closestQuality all format = 0 := by
  obtain ⟨refusal, member, notPositive, _, named⟩ := refused
  have found : closest? all format = some refusal := by
    cases exact : all.find? fun entry => Text.lowerCase entry.range = format.mediaType.toList with
    | none =>
        have notNamed := List.find?_eq_none.mp exact refusal member
        simp [named] at notNamed
    | some entry =>
        have sameRange : Text.lowerCase entry.range = Text.lowerCase refusal.range := by
          simpa [named] using List.find?_some exact
        have same : entry = refusal :=
          List.inj_on_of_nodup_map distinct (List.mem_of_find?_eq_some exact) member sameRange
        rw [closest?, Format.ranges, List.findSome?_cons, exact, same]
  simp [closestQuality, found, Weight.worth, notPositive]

theorem closestQuality_le_quality (distinct : DistinctRanges all) :
    closestQuality all format ≤ quality all format := by
  by_cases refused : Refused all format
  · rw [closestQuality_of_refused distinct refused]
    exact Nat.zero_le _
  · cases found : closest? all format with
    | none => simp [closestQuality, found]
    | some entry =>
        obtain ⟨member, covered⟩ := closest?_eq_some found
        simpa [closestQuality, found] using worth_le_quality refused member covered

/-- The weight of the closest entry is the quality of the format unless a range
that is less close is heavier and the format is not refused. -/
theorem closestQuality_eq_quality_iff (distinct : DistinctRanges all) :
    closestQuality all format = quality all format ↔
      Refused all format ∨ ∀ entry ∈ all, CoversFormat entry.range format →
        entry.weight.worth ≤ closestQuality all format := by
  by_cases refused : Refused all format
  · simp [refused, closestQuality_of_refused distinct refused, quality_of_refused refused]
  · rw [← quality_le_iff refused, (closestQuality_le_quality distinct).ge_iff_eq]
    simp [refused]

end Quality

/-- A header with entries, none of them malformed, chooses a format of some quality
that no format exceeds; it accepts nothing exactly if no format has any quality. If
no range occurs twice, the quality is the weight of the closest entry exactly where
the format is refused or no entry that covers it is heavier than the closest. -/
theorem negotiate_has_greatest_quality (header : List Char)
    (hasEntry : ∃ piece ∈ parts header, rangeOf piece ≠ [])
    (wellFormed : ∀ piece ∈ parts header, ¬ IsMalformed piece) :
    (∀ format, negotiate header = .ok format →
      0 < quality (statedEntries (parts header)) format ∧
        ∀ other, quality (statedEntries (parts header)) other ≤
          quality (statedEntries (parts header)) format) ∧
    (negotiate header = .error (.notAcceptable (String.ofList header)) ↔
      ∀ format, quality (statedEntries (parts header)) format = 0) ∧
    ((∃ format, negotiate header = .ok format) ∨
      negotiate header = .error (.notAcceptable (String.ofList header))) ∧
    (DistinctRanges (statedEntries (parts header)) → ∀ format,
      closestQuality (statedEntries (parts header)) format =
          quality (statedEntries (parts header)) format ↔
        Refused (statedEntries (parts header)) format ∨
          ∀ entry ∈ statedEntries (parts header), CoversFormat entry.range format →
            entry.weight.worth ≤ closestQuality (statedEntries (parts header)) format) := by
  obtain ⟨piece, member, hasRange⟩ := hasEntry
  have nonempty : statedEntries (parts header) ≠ [] := fun empty =>
    hasRange ((statedEntries_eq_nil_iff wellFormed).mp empty piece member)
  refine ⟨fun format chosen => ?_, ?_, ?_, fun distinct format => ?_⟩
  · exact choose?_greatest nonempty ((negotiate_eq_ok_iff wellFormed).mp chosen)
  · rw [negotiate_eq_notAcceptable_iff wellFormed, choose?_eq_none_iff_quality nonempty]
  · cases chosen : choose? (statedEntries (parts header)) with
    | none => exact .inr ((negotiate_eq_notAcceptable_iff wellFormed).mpr chosen)
    | some format => exact .inl ⟨format, (negotiate_eq_ok_iff wellFormed).mpr chosen⟩
  · exact closestQuality_eq_quality_iff distinct

/-- An exact type without weight under a heavier range, and one that is lighter than
the range that covers it. -/
theorem negotiate_has_greatest_quality_under_range :
    (∃ piece ∈ parts "application/json;q=0, text/csv;q=0.5, */*;q=0.7".toList,
      rangeOf piece ≠ []) ∧
    (∀ piece ∈ parts "application/json;q=0, text/csv;q=0.5, */*;q=0.7".toList,
      ¬ IsMalformed piece) ∧
    ∃ format, negotiate "application/json;q=0, text/csv;q=0.5, */*;q=0.7".toList = .ok format ∧
      0 < quality (statedEntries
        (parts "application/json;q=0, text/csv;q=0.5, */*;q=0.7".toList)) format ∧
      ∀ other, quality (statedEntries
          (parts "application/json;q=0, text/csv;q=0.5, */*;q=0.7".toList)) other ≤
        quality (statedEntries
          (parts "application/json;q=0, text/csv;q=0.5, */*;q=0.7".toList)) format := by
  have hasEntry : ∃ piece ∈ parts "application/json;q=0, text/csv;q=0.5, */*;q=0.7".toList,
      rangeOf piece ≠ [] := by decide
  have wellFormed : ∀ piece ∈ parts "application/json;q=0, text/csv;q=0.5, */*;q=0.7".toList,
      ¬ IsMalformed piece := by decide
  obtain ⟨greatest, nothing, decided, _⟩ :=
    negotiate_has_greatest_quality _ hasEntry wellFormed
  refine ⟨hasEntry, wellFormed, ?_⟩
  rcases decided with ⟨format, chosen⟩ | refused
  · exact ⟨format, chosen, greatest format chosen⟩
  · exact absurd (nothing.mp refused .csv) (by decide)

/-- The closest entry does not decide: `text/csv` is chosen under a range that is
heavier than its own entry, although the range gives another format all of its
weight. -/
theorem not_forall_greatest_closestQuality :
    ¬ ∀ header : List Char,
      (∃ piece ∈ parts header, rangeOf piece ≠ []) →
      (∀ piece ∈ parts header, ¬ IsMalformed piece) →
      DistinctRanges (statedEntries (parts header)) →
        (∀ format, negotiate header = .ok format →
          0 < closestQuality (statedEntries (parts header)) format ∧
            ∀ other, closestQuality (statedEntries (parts header)) other ≤
              closestQuality (statedEntries (parts header)) format) ∧
        (negotiate header = .error (.notAcceptable (String.ofList header)) ↔
          ∀ format, closestQuality (statedEntries (parts header)) format = 0) := by
  intro law
  have wellFormed : ∀ piece ∈ parts "text/csv;q=0.1, text/*".toList, ¬ IsMalformed piece := by
    decide
  have stated : statedEntries (parts "text/csv;q=0.1, text/*".toList) =
      [⟨"text/csv".toList, ⟨false, 0x3DCCCCCD⟩⟩, ⟨"text/*".toList, .one⟩] := by
    decide
  have chosen : negotiate "text/csv;q=0.1, text/*".toList = .ok .csv := by
    rw [negotiate_eq_ok_iff wellFormed, stated, choose?_eq_some_iff (by simp)]
    exact ⟨[⟨"text/csv".toList, ⟨false, 0x3DCCCCCD⟩⟩], ⟨"text/*".toList, .one⟩, [],
      ⟨rfl, by decide, by decide, by decide⟩, [], [.json, .tsv, .xlsx], rfl, by decide, by decide⟩
  have greatest := ((law _ (by decide) wellFormed (by decide)).1 .csv chosen).2 .tsv
  rw [stated] at greatest
  exact absurd greatest (by decide)

end Accept

end LearnExport
