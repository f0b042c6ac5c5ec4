import LearnExport.Proofs.Format.Header
import LearnExport.Proofs.Format.MediaRange
import LearnExport.Proofs.Record.StableOrder

/-!
# The best entry of a header

A format is refused if an entry for exactly its media type has no positive
weight. Among the entries of positive weight that cover a format which is not
refused the weightiest one is the best, the earliest of several, and its first
such format is chosen. Nothing else matters: neither where the refusals stand nor
how the entries of lower weight are ordered.
-/

namespace LearnExport.Accept

/-- That an entry for exactly a format's media type has no positive weight. -/
def Refused (all : List Entry) (format : Format) : Prop :=
  ∃ entry ∈ all, entry.weight.isPositive = false ∧ '*' ∉ entry.range ∧
    Text.lowerCase entry.range = format.mediaType.toList

/-- That an entry covers a format and none of all entries refuses it. -/
def Entry.Offers (all : List Entry) (entry : Entry) (format : Format) : Prop :=
  CoversFormat entry.range format ∧ ¬ Refused all format

/-- That an entry offers a format but none of those before it. -/
def Entry.OffersFirst (all : List Entry) (entry : Entry) (format : Format) : Prop :=
  ∃ preferred others, Format.all = preferred ++ format :: others ∧
    entry.Offers all format ∧ ∀ other ∈ preferred, ¬ entry.Offers all other

/-- That an entry asks for a format that is not refused. -/
def Entry.Contends (all : List Entry) (entry : Entry) : Prop :=
  entry.weight.isPositive = true ∧ ∃ format, entry.Offers all format

/-- That an entry has the greatest weight of those that contend, and is the first
of these. -/
structure IsBest (all before : List Entry) (entry : Entry) (after : List Entry) : Prop where
  split : all = before ++ entry :: after
  contends : entry.Contends all
  heavier : ∀ other ∈ before, other.Contends all →
    other.weight.magnitude < entry.weight.magnitude
  notLighter : ∀ other ∈ after, other.Contends all →
    other.weight.magnitude ≤ entry.weight.magnitude

section Offers

variable {all : List Entry} {entry : Entry} {format : Format}

instance : Decidable (Refused all format) :=
  inferInstanceAs (Decidable (∃ _ ∈ all, _))

instance : Decidable (entry.Offers all format) :=
  inferInstanceAs (Decidable (_ ∧ _))

theorem coversFormat_iff_of_not_star (noStar : '*' ∉ entry.range) :
    CoversFormat entry.range format ↔
      Text.lowerCase entry.range = format.mediaType.toList := by
  have noStarLowered : '*' ∉ Text.lowerCase entry.range :=
    mt (Text.mem_lowerCase_iff (by decide)).mp noStar
  have notWildcard {range : List Char} (hasStar : '*' ∈ range) :
      Text.lowerCase entry.range ≠ range := fun same => noStarLowered (same ▸ hasStar)
  simp [CoversFormat, Format.ranges, notWildcard]

theorem isRefused_iff : isRefused all format = true ↔ Refused all format := by
  rw [isRefused, List.any_eq_true]
  refine exists_congr fun entry => and_congr_right fun _ => ?_
  simp only [Entry.refuses, Bool.and_eq_true, Bool.not_eq_true', List.contains_eq_mem,
    decide_eq_false_iff_not, covers_iff, and_assoc]
  exact and_congr_right fun _ => and_congr_right coversFormat_iff_of_not_star

theorem offers_iff :
    (covers entry.range format && !isRefused all format) = true ↔ entry.Offers all format := by
  rw [Bool.and_eq_true, covers_iff, Bool.not_eq_true', Bool.eq_false_iff, ne_eq, isRefused_iff]
  rfl

theorem offer?_eq_some_iff : entry.offer? all = some format ↔ entry.OffersFirst all format := by
  have notOffered (other : Format) :
      (!(covers entry.range other && !isRefused all other)) = true ↔ ¬ entry.Offers all other := by
    rw [Bool.not_eq_true', ← offers_iff, Bool.not_eq_true]
  simp only [Entry.offer?, List.find?_eq_some_iff_append, offers_iff, notOffered]
  constructor
  · rintro ⟨offered, preferred, others, split, none⟩
    exact ⟨preferred, others, split, offered, none⟩
  · rintro ⟨preferred, others, split, offered, none⟩
    exact ⟨offered, preferred, others, split, none⟩

theorem offer?_eq_none_iff : entry.offer? all = none ↔ ∀ format, ¬ entry.Offers all format := by
  rw [Entry.offer?, List.find?_eq_none]
  refine forall_congr' fun format => ?_
  rw [offers_iff]
  exact ⟨fun none => none format.mem_all, fun none _ => none⟩

theorem isSome_offer?_iff :
    (entry.offer? all).isSome = true ↔ ∃ format, entry.Offers all format := by
  rw [Option.isSome_iff_ne_none, ne_eq, offer?_eq_none_iff]
  push Not
  rfl

end Offers

/-- The greatest weight comes first. -/
def Entry.rank (entry : Entry) : Rank where
  place := -entry.weight.magnitude
  id := 0

theorem Entry.rank_precedes_iff {first second : Entry} :
    first.rank.precedes second.rank = true ↔ second.weight.magnitude ≤ first.weight.magnitude := by
  have place (entry : Entry) : entry.rank.place = -entry.weight.magnitude := rfl
  have id (entry : Entry) : entry.rank.id = 0 := rfl
  simp only [Rank.precedes, Bool.or_eq_true, Bool.and_eq_true, decide_eq_true_eq, beq_iff_eq]
  rw [place, place, id, id]
  omega

theorem ranked_eq_sortedByRank (all : List Entry) :
    ranked all = sortedByRank Entry.rank (all.filter fun entry => entry.weight.isPositive) := by
  have sameOrder : (fun first second : Entry => first.weight.atLeast second.weight) =
      fun first second => first.rank.precedes second.rank := by
    funext first second
    rw [Bool.eq_iff_iff, Entry.rank_precedes_iff, Weight.atLeast, decide_eq_true_eq]
  rw [ranked, sameOrder, sortedByRank]

theorem mem_ranked_iff {all : List Entry} {entry : Entry} :
    entry ∈ ranked all ↔ entry ∈ all ∧ entry.weight.isPositive = true := by
  rw [ranked_eq_sortedByRank, (sortedByRank_perm _ _).mem_iff, List.mem_filter]

theorem filter_offers_ranked (all : List Entry) :
    (ranked all).filter (fun entry => (entry.offer? all).isSome) =
      (sortedByRank Entry.rank all).filter fun entry =>
        (entry.offer? all).isSome && entry.weight.isPositive := by
  rw [ranked_eq_sortedByRank, ← filter_sortedByRank, List.filter_filter]

theorem contends_iff {all : List Entry} {entry : Entry} :
    ((entry.offer? all).isSome && entry.weight.isPositive) = true ↔ entry.Contends all := by
  rw [Bool.and_eq_true, isSome_offer?_iff, and_comm]
  rfl

instance (all : List Entry) (entry : Entry) : Decidable (entry.Contends all) :=
  decidable_of_iff _ contends_iff

/-- The entry that decides is the best one. -/
theorem exists_isBest_of_findSome? {all : List Entry} {format : Format}
    (found : (ranked all).findSome? (fun entry => entry.offer? all) = some format) :
    ∃ before entry after, IsBest all before entry after ∧ entry.OffersFirst all format := by
  obtain ⟨skipped, entry, others, split, offered, skippedNone⟩ :=
    List.findSome?_eq_some_iff.mp found
  have leads : (ranked all).filter (fun entry => (entry.offer? all).isSome) =
      entry :: others.filter fun entry => (entry.offer? all).isSome := by
    have noneKept : skipped.filter (fun entry => (entry.offer? all).isSome) = [] := by
      simpa [List.filter_eq_nil_iff] using skippedNone
    rw [split, List.filter_append, noneKept, List.filter_cons_of_pos (by simp [offered])]
    rfl
  -- Ranking all entries instead of the positive ones changes nothing among contenders,
  -- and there the first in rank is found at its place in the header.
  rw [filter_offers_ranked] at leads
  obtain ⟨before, after, splitAll, heavier, notLighter⟩ := exists_split_of_filter_sortedByRank leads
  refine ⟨before, entry, after, ⟨splitAll, ?_, ?_, ?_⟩, offer?_eq_some_iff.mp offered⟩
  · have isRanked : entry ∈ ranked all := split ▸ by simp
    exact ⟨(mem_ranked_iff.mp isRanked).2, isSome_offer?_iff.mp (by simp [offered])⟩
  · intro other member contends
    have notBefore := heavier other member (contends_iff.mpr contends)
    rw [Bool.eq_false_iff, ne_eq, Entry.rank_precedes_iff] at notBefore
    omega
  · intro other member contends
    exact Entry.rank_precedes_iff.mp (notLighter other member (contends_iff.mpr contends))

theorem IsBest.magnitude_le {all before after : List Entry} {entry other : Entry}
    (best : IsBest all before entry after) (member : other ∈ all) (contends : other.Contends all) :
    other.weight.magnitude ≤ entry.weight.magnitude := by
  rw [best.split, List.mem_append, List.mem_cons] at member
  rcases member with isBefore | rfl | isAfter
  · exact (best.heavier other isBefore contends).le
  · exact le_refl _
  · exact best.notLighter other isAfter contends

theorem IsBest.not_isBest_later {all before between after : List Entry} {entry other : Entry}
    (best : IsBest all before entry (between ++ other :: after)) :
    ¬ IsBest all (before ++ entry :: between) other after := by
  intro otherBest
  have lighter := otherBest.heavier entry (by simp) best.contends
  have notLighter := best.notLighter other (by simp) otherBest.contends
  omega

/-- No two entries are both the best. -/
theorem IsBest.entry_unique {all before after otherBefore otherAfter : List Entry}
    {entry other : Entry} (best : IsBest all before entry after)
    (otherBest : IsBest all otherBefore other otherAfter) : entry = other := by
  have same := best.split.symm.trans otherBest.split
  -- The two stand at the same place, or one of them stands before the other.
  rcases List.append_eq_append_iff.mp same with ⟨between, rfl, rest⟩ | ⟨between, rfl, rest⟩
  · cases between with
    | nil => exact (List.cons.inj (by simpa using rest)).1
    | cons first more =>
        obtain ⟨rfl, rfl⟩ := List.cons.inj rest
        exact absurd otherBest best.not_isBest_later
  · cases between with
    | nil => exact (List.cons.inj (by simpa using rest)).1.symm
    | cons first more =>
        obtain ⟨rfl, rfl⟩ := List.cons.inj rest
        exact absurd best otherBest.not_isBest_later

theorem choose?_eq_findSome? {all : List Entry} (some : all ≠ []) :
    choose? all = (ranked all).findSome? fun entry => entry.offer? all := by
  rw [choose?, if_neg (mt List.isEmpty_iff.mp some)]

theorem choose?_eq_none_iff {all : List Entry} (some : all ≠ []) :
    choose? all = none ↔ ∀ entry ∈ all, ¬ entry.Contends all := by
  rw [choose?_eq_findSome? some, List.findSome?_eq_none_iff]
  simp only [mem_ranked_iff, offer?_eq_none_iff, Entry.Contends, not_and, not_exists, and_imp]

/-- What is chosen is the first format that the best entry offers. -/
theorem choose?_eq_some_iff {all : List Entry} (nonempty : all ≠ []) {format : Format} :
    choose? all = some format ↔
      ∃ before entry after, IsBest all before entry after ∧ entry.OffersFirst all format := by
  constructor
  · intro chosen
    rw [choose?_eq_findSome? nonempty] at chosen
    exact exists_isBest_of_findSome? chosen
  · rintro ⟨before, entry, after, best, first⟩
    cases chosen : choose? all with
    | none =>
        have member : entry ∈ all := best.split ▸ by simp
        exact absurd best.contends ((choose?_eq_none_iff nonempty).mp chosen entry member)
    | some other =>
        rw [choose?_eq_findSome? nonempty] at chosen
        obtain ⟨otherBefore, otherEntry, otherAfter, otherBest, otherFirst⟩ :=
          exists_isBest_of_findSome? chosen
        have sameEntry := best.entry_unique otherBest
        subst sameEntry
        rw [← offer?_eq_some_iff.mpr first, ← offer?_eq_some_iff.mpr otherFirst]

theorem exists_negotiate_eq_badRequest {header : List Char}
    (malformed : ∃ piece ∈ parts header, IsMalformed piece) :
    ∃ fault, negotiate header = .error (.badRequest fault) := by
  obtain ⟨value, refused⟩ := exists_entries_eq_error malformed
  exact ⟨_, by rw [negotiate, refused]⟩

section WellFormed

variable {header : List Char} (wellFormed : ∀ piece ∈ parts header, ¬ IsMalformed piece)

include wellFormed

theorem negotiate_eq_elim :
    negotiate header = (choose? (statedEntries (parts header))).elim
      (.error (.notAcceptable (String.ofList header))) .ok := by
  rw [negotiate, entries_eq_ok wellFormed]
  cases chosen : choose? (statedEntries (parts header)) <;> simp [chosen]

theorem negotiate_eq_ok_iff {format : Format} :
    negotiate header = .ok format ↔ choose? (statedEntries (parts header)) = some format := by
  rw [negotiate_eq_elim wellFormed]
  cases choose? (statedEntries (parts header)) <;> simp

theorem negotiate_eq_notAcceptable_iff :
    negotiate header = .error (.notAcceptable (String.ofList header)) ↔
      choose? (statedEntries (parts header)) = none := by
  rw [negotiate_eq_elim wellFormed]
  cases choose? (statedEntries (parts header)) <;> simp

theorem negotiate_ne_badRequest (fault : MalformedRequest) :
    negotiate header ≠ .error (.badRequest fault) := by
  rw [negotiate_eq_elim wellFormed]
  cases choose? (statedEntries (parts header)) <;> simp

theorem negotiate_of_blank (blank : ∀ piece ∈ parts header, rangeOf piece = []) :
    negotiate header = .ok .csv := by
  rw [negotiate_eq_ok_iff wellFormed, (statedEntries_eq_nil_iff wellFormed).mpr blank]
  rfl

end WellFormed

theorem negotiate_eq_badRequest_iff {header : List Char} :
    (∃ fault, negotiate header = .error (.badRequest fault)) ↔
      ∃ piece ∈ parts header, IsMalformed piece := by
  refine ⟨?_, exists_negotiate_eq_badRequest⟩
  rintro ⟨fault, refused⟩
  by_contra wellFormed
  push Not at wellFormed
  exact negotiate_ne_badRequest wellFormed fault refused

/-- A header without entries selects CSV. Of the others one is malformed exactly if
an entry has a weight that is no number. Else the format chosen is the first one
that the best entry offers; without an entry that contends nothing is acceptable,
and a format that is refused is never chosen. -/
theorem negotiate_picks_best_entry (header : List Char) :
    ((∀ piece ∈ parts header, rangeOf piece = []) → negotiate header = .ok .csv) ∧
    ((∃ fault, negotiate header = .error (.badRequest fault)) ↔
      ∃ piece ∈ parts header, IsMalformed piece) ∧
    ((∃ piece ∈ parts header, rangeOf piece ≠ []) →
      (∀ piece ∈ parts header, ¬ IsMalformed piece) →
        (∀ format, negotiate header = .ok format ↔
          ∃ before entry after, IsBest (statedEntries (parts header)) before entry after ∧
            entry.OffersFirst (statedEntries (parts header)) format) ∧
        (negotiate header = .error (.notAcceptable (String.ofList header)) ↔
          ∀ entry ∈ statedEntries (parts header),
            ¬ entry.Contends (statedEntries (parts header))) ∧
        ∀ format, Refused (statedEntries (parts header)) format →
          negotiate header ≠ .ok format) := by
  refine ⟨?_, negotiate_eq_badRequest_iff, ?_⟩
  · intro blank
    exact negotiate_of_blank (fun piece member malformed => malformed.1 (blank piece member)) blank
  · rintro ⟨piece, member, hasRange⟩ wellFormed
    have nonempty : statedEntries (parts header) ≠ [] := fun empty =>
      hasRange ((statedEntries_eq_nil_iff wellFormed).mp empty piece member)
    refine ⟨fun format => ?_, ?_, ?_⟩
    · rw [negotiate_eq_ok_iff wellFormed, choose?_eq_some_iff nonempty]
    · rw [negotiate_eq_notAcceptable_iff wellFormed, choose?_eq_none_iff nonempty]
    · intro format refused chosen
      rw [negotiate_eq_ok_iff wellFormed, choose?_eq_some_iff nonempty] at chosen
      obtain ⟨_, entry, _, _, _, _, _, offers, _⟩ := chosen
      exact offers.2 refused

/-- An exact type without weight is not chosen under the range that is, and the
lighter range is not asked. -/
theorem negotiate_refused_under_range :
    (∃ piece ∈ parts "text/csv;q=0, text/*;q=0.5, */*;q=0.2".toList, rangeOf piece ≠ []) ∧
    (∀ piece ∈ parts "text/csv;q=0, text/*;q=0.5, */*;q=0.2".toList, ¬ IsMalformed piece) ∧
    negotiate "text/csv;q=0, text/*;q=0.5, */*;q=0.2".toList = .ok .tsv := by
  have hasEntry : ∃ piece ∈ parts "text/csv;q=0, text/*;q=0.5, */*;q=0.2".toList,
      rangeOf piece ≠ [] := by decide
  have wellFormed : ∀ piece ∈ parts "text/csv;q=0, text/*;q=0.5, */*;q=0.2".toList,
      ¬ IsMalformed piece := by decide
  refine ⟨hasEntry, wellFormed, ?_⟩
  rw [((negotiate_picks_best_entry _).2.2 hasEntry wellFormed).1]
  refine ⟨[⟨"text/csv".toList, ⟨false, 0⟩⟩], ⟨"text/*".toList, ⟨false, 0x3F000000⟩⟩,
    [⟨"*/*".toList, ⟨false, 0x3E4CCCCD⟩⟩], ⟨by decide, by decide, by decide, by decide⟩,
    [.csv, .json], [.xlsx], rfl, by decide, by decide⟩

end LearnExport.Accept
