import LearnExport.Record.Order
import Mathlib.Data.List.Nodup
import Mathlib.Data.List.Perm.Basic

/-!
# Sorting by rank is stable

A list in the order of ranks is determined by the records of each rank, in the
order in which they stand. Sorting changes none of these lists, so it commutes
with everything that respects ranks: with choosing some of the records, with
turning them into others of the same rank, and with sorting by a coarser rank.
Records that have different ranks may be given in any order.
-/

namespace LearnExport

variable {α β : Type}

def ofRank (rank : α → Rank) (place : Rank) (records : List α) : List α :=
  records.filter fun record => rank record = place

theorem Rank.precedes_refl (rank : Rank) : rank.precedes rank = true := by
  simpa using rank.precedes_total rank

private theorem mem_of_ofRank_eq {rank : α → Rank} {first second : List α}
    (same : ∀ place, ofRank rank place first = ofRank rank place second)
    {record : α} (member : record ∈ first) : record ∈ second := by
  have inRank : record ∈ ofRank rank (rank record) first := by
    simp [ofRank, member]
  rw [same] at inRank
  exact (List.mem_filter.mp inRank).1

/-- Two lists in the order of ranks are equal if they have the same records of
each rank in the same order. -/
theorem eq_of_ofRank_eq (rank : α → Rank) {first second : List α}
    (firstOrdered : first.Pairwise fun earlier later =>
      (rank earlier).precedes (rank later) = true)
    (secondOrdered : second.Pairwise fun earlier later =>
      (rank earlier).precedes (rank later) = true)
    (same : ∀ place, ofRank rank place first = ofRank rank place second) :
    first = second := by
  induction first generalizing second with
  | nil =>
      cases second with
      | nil => rfl
      | cons record others =>
          have member : record ∈ ([] : List α) :=
            mem_of_ofRank_eq (fun place => (same place).symm) List.mem_cons_self
          exact absurd member List.not_mem_nil
  | cons firstHead firstTail ih =>
      cases second with
      | nil => exact absurd (mem_of_ofRank_eq same List.mem_cons_self) List.not_mem_nil
      | cons secondHead secondTail =>
          obtain ⟨firstLeast, firstRest⟩ := List.pairwise_cons.mp firstOrdered
          obtain ⟨secondLeast, secondRest⟩ := List.pairwise_cons.mp secondOrdered
          have forward : (rank firstHead).precedes (rank secondHead) = true := by
            rcases List.mem_cons.mp (mem_of_ofRank_eq (fun place => (same place).symm)
              (List.mem_cons_self (a := secondHead))) with isHead | inTail
            · rw [isHead]
              exact Rank.precedes_refl _
            · exact firstLeast secondHead inTail
          have backward : (rank secondHead).precedes (rank firstHead) = true := by
            rcases List.mem_cons.mp (mem_of_ofRank_eq same
              (List.mem_cons_self (a := firstHead))) with isHead | inTail
            · rw [isHead]
              exact Rank.precedes_refl _
            · exact secondLeast firstHead inTail
          have rankEq : rank firstHead = rank secondHead :=
            Rank.eq_of_precedes forward backward
          have headEq : firstHead = secondHead := by
            have atRank := same (rank firstHead)
            rw [ofRank, ofRank, List.filter_cons_of_pos (by simp),
              List.filter_cons_of_pos (by simp [rankEq])] at atRank
            exact (List.cons.inj atRank).1
          subst headEq
          congr 1
          apply ih firstRest secondRest
          intro place
          have atPlace := same place
          by_cases here : rank firstHead = place
          · simpa [ofRank, here] using atPlace
          · simpa [ofRank, here] using atPlace

/-- Records of one rank are in the order of every rank that this one
determines. -/
theorem pairwise_ofRank (rank : α → Rank) {coarser : α → Rank}
    (determines : ∀ first second, rank first = rank second → coarser first = coarser second)
    (place : Rank) (records : List α) :
    (ofRank rank place records).Pairwise fun earlier later =>
      (coarser earlier).precedes (coarser later) = true := by
  have anyOrder : (ofRank rank place records).Pairwise fun _ _ => True :=
    List.pairwise_of_forall fun _ _ => trivial
  refine anyOrder.imp_of_mem ?_
  intro earlier later earlierMember laterMember _
  have earlierRank : rank earlier = place := by simpa using (List.mem_filter.mp earlierMember).2
  have laterRank : rank later = place := by simpa using (List.mem_filter.mp laterMember).2
  rw [determines earlier later (earlierRank.trans laterRank.symm)]
  exact Rank.precedes_refl _

/-- Sorting leaves the records of each rank in the order in which they stand. -/
theorem ofRank_sortedByRank (rank : α → Rank) (place : Rank) (records : List α) :
    ofRank rank place (sortedByRank rank records) = ofRank rank place records := by
  have ordered := pairwise_ofRank rank (fun _ _ same => same) place records
  have kept : (ofRank rank place records).Sublist (sortedByRank rank records) := by
    refine List.sublist_mergeSort ?_ ?_ ordered List.filter_sublist
    · intro first second third before after
      exact Rank.precedes_trans before after
    · intro first second
      exact Rank.precedes_total (rank first) (rank second)
  have keptInRank : (ofRank rank place records).Sublist
      (ofRank rank place (sortedByRank rank records)) := by
    have filtered := kept.filter fun record => decide (rank record = place)
    simpa [ofRank] using filtered
  refine (keptInRank.eq_of_length ?_).symm
  exact ((sortedByRank_perm rank records).filter _).length_eq.symm

/-- Lists with the same records of each rank in the same order are sorted into
the same list. -/
theorem sortedByRank_eq_of_ofRank_eq {rank : α → Rank} {first second : List α}
    (same : ∀ place, ofRank rank place first = ofRank rank place second) :
    sortedByRank rank first = sortedByRank rank second := by
  apply eq_of_ofRank_eq rank (pairwise_sortedByRank rank first)
    (pairwise_sortedByRank rank second)
  intro place
  rw [ofRank_sortedByRank, ofRank_sortedByRank, same]

theorem filter_sortedByRank (rank : α → Rank) (keep : α → Bool) (records : List α) :
    (sortedByRank rank records).filter keep = sortedByRank rank (records.filter keep) := by
  apply eq_of_ofRank_eq rank ((pairwise_sortedByRank rank records).filter keep)
    (pairwise_sortedByRank rank _)
  intro place
  rw [ofRank_sortedByRank]
  calc
    ofRank rank place ((sortedByRank rank records).filter keep) =
        (ofRank rank place (sortedByRank rank records)).filter keep := by
      simp only [ofRank, List.filter_filter, Bool.and_comm]
    _ = (ofRank rank place records).filter keep := by rw [ofRank_sortedByRank]
    _ = ofRank rank place (records.filter keep) := by
      simp only [ofRank, List.filter_filter, Bool.and_comm]

/-- The first of the chosen records in the order of ranks stands, in the given order,
after chosen records of later ranks only and before none of an earlier rank. -/
theorem exists_split_of_filter_sortedByRank {rank : α → Rank} {keep : α → Bool}
    {records others : List α} {first : α}
    (sorted : (sortedByRank rank records).filter keep = first :: others) :
    ∃ before after, records = before ++ first :: after ∧
      (∀ record ∈ before, keep record = true → (rank record).precedes (rank first) = false) ∧
      ∀ record ∈ after, keep record = true → (rank first).precedes (rank record) = true := by
  rw [filter_sortedByRank] at sorted
  have least (record : α) (member : record ∈ records) (kept : keep record = true) :
      (rank first).precedes (rank record) = true := by
    have listed : record ∈ first :: others := by
      rw [← sorted, (sortedByRank_perm rank _).mem_iff]
      exact List.mem_filter.mpr ⟨member, kept⟩
    have ordered := pairwise_sortedByRank rank (records.filter keep)
    rw [sorted] at ordered
    rcases List.mem_cons.mp listed with isFirst | isOther
    · rw [isFirst]
      exact Rank.precedes_refl _
    · exact (List.pairwise_cons.mp ordered).1 record isOther
  have leadsRank : ofRank rank (rank first) (records.filter keep) =
      first :: ofRank rank (rank first) others := by
    rw [← ofRank_sortedByRank, sorted, ofRank, List.filter_cons_of_pos (by simp), ofRank]
  rw [ofRank, List.filter_filter, List.filter_eq_cons_iff] at leadsRank
  obtain ⟨before, after, split, noneBefore, _, _⟩ := leadsRank
  refine ⟨before, after, split, ?_, ?_⟩
  · intro record member kept
    have otherRank : rank record ≠ rank first := by simpa [kept] using noneBefore record member
    have later := least record (split ▸ List.mem_append_left _ member) kept
    exact Bool.eq_false_iff.mpr fun earlier => otherRank (Rank.eq_of_precedes earlier later)
  · intro record member kept
    exact least record (split ▸ List.mem_append_right _ (List.mem_cons_of_mem _ member)) kept

/-- Choosing among records that were turned into others is choosing among the
records themselves. -/
theorem filter_filterMap_of_agrees {keep : α → Bool} {newKeep : β → Bool} {turn : α → Option β}
    (agrees : ∀ record result, turn record = some result → newKeep result = keep record)
    (records : List α) :
    (records.filterMap turn).filter newKeep = (records.filter keep).filterMap turn := by
  rw [List.filter_filterMap, List.filterMap_filter]
  apply List.filterMap_congr
  intro record _
  cases turned : turn record with
  | none => simp
  | some result => rw [Option.filter_some, agrees record result turned]

private theorem ofRank_filterMap {rank : α → Rank} {newRank : β → Rank} {turn : α → Option β}
    (respects : ∀ record result, turn record = some result → newRank result = rank record)
    (place : Rank) (records : List α) :
    ofRank newRank place (records.filterMap turn) = (ofRank rank place records).filterMap turn := by
  apply filter_filterMap_of_agrees
  intro record result turned
  rw [respects record result turned]

/-- Sorting commutes with turning records into others of the same rank, or
leaving them out. -/
theorem filterMap_sortedByRank {rank : α → Rank} (newRank : β → Rank) {turn : α → Option β}
    (respects : ∀ record result, turn record = some result → newRank result = rank record)
    (records : List α) :
    (sortedByRank rank records).filterMap turn = sortedByRank newRank (records.filterMap turn) := by
  apply eq_of_ofRank_eq newRank ?_ (pairwise_sortedByRank newRank _)
  · intro place
    rw [ofRank_sortedByRank, ofRank_filterMap respects, ofRank_sortedByRank,
      ofRank_filterMap respects]
  · refine (pairwise_sortedByRank rank records).filterMap turn ?_
    intro earlier later ordered result fromEarlier other fromLater
    rw [respects earlier result fromEarlier, respects later other fromLater]
    exact ordered

theorem map_sortedByRank {rank : α → Rank} (newRank : β → Rank) {turn : α → β}
    (respects : ∀ record, newRank (turn record) = rank record) (records : List α) :
    (sortedByRank rank records).map turn = sortedByRank newRank (records.map turn) := by
  rw [← congrFun List.filterMap_eq_map, ← congrFun List.filterMap_eq_map]
  apply filterMap_sortedByRank
  intro record result turned
  rw [← Option.some.inj turned]
  exact respects record

/-- Sorting first by a rank that the final rank determines makes no
difference. -/
theorem sortedByRank_sortedByRank {rank earlierRank : α → Rank}
    (determines : ∀ first second, rank first = rank second →
      earlierRank first = earlierRank second)
    (records : List α) :
    sortedByRank rank (sortedByRank earlierRank records) = sortedByRank rank records := by
  apply sortedByRank_eq_of_ofRank_eq
  intro place
  rw [ofRank, filter_sortedByRank]
  exact List.mergeSort_of_pairwise (pairwise_ofRank rank determines place records)

/-- Records of different ranks are sorted alike in whatever order they are
given. -/
theorem sortedByRank_eq_of_perm {rank : α → Rank} {first second : List α}
    (rearranged : first.Perm second)
    (distinct : ∀ record ∈ first, ∀ other ∈ first, rank record = rank other → record = other) :
    sortedByRank rank first = sortedByRank rank second := by
  have sortedPerm : (sortedByRank rank first).Perm (sortedByRank rank second) :=
    ((sortedByRank_perm rank first).trans rearranged).trans (sortedByRank_perm rank second).symm
  refine List.Perm.eq_of_pairwise ?_ (pairwise_sortedByRank rank first)
    (pairwise_sortedByRank rank second) sortedPerm
  intro record other recordMember otherMember before after
  refine distinct record ((sortedByRank_perm rank first).mem_iff.mp recordMember) other ?_
    (Rank.eq_of_precedes before after)
  exact rearranged.mem_iff.mpr ((sortedByRank_perm rank second).mem_iff.mp otherMember)

/-- Records with different ids are sorted alike in whatever order they are given,
because ranks end in ids. -/
theorem sortedByRank_eq_of_nodup_ids {rank : α → Rank} (id : α → Int64)
    (rankId : ∀ record, (rank record).id = (id record).toInt) {first second : List α}
    (rearranged : first.Perm second) (distinct : (second.map id).Nodup) :
    sortedByRank rank first = sortedByRank rank second := by
  apply sortedByRank_eq_of_perm rearranged
  intro record member other otherMember sameRank
  have sameId : (id record).toInt = (id other).toInt := by
    rw [← rankId, ← rankId, sameRank]
  exact List.inj_on_of_nodup_map distinct (rearranged.mem_iff.mp member)
    (rearranged.mem_iff.mp otherMember) (Int64.toInt_inj.mp sameId)

/-- One more record with an id of its own finds its place among the sorted others,
which stay in their order. -/
theorem exists_sortedByRank_append {rank : α → Rank} (id : α → Int64)
    (rankId : ∀ record, (rank record).id = (id record).toInt) {records : List α}
    (distinct : (records.map id).Nodup) (added : α) :
    ∃ before after, sortedByRank rank records = before ++ after ∧
      sortedByRank rank (records ++ [added]) = before ++ added :: after := by
  have isListed : added ∈ sortedByRank rank (records ++ [added]) :=
    (sortedByRank_perm rank _).mem_iff.mpr (by simp)
  obtain ⟨before, after, split⟩ := List.append_of_mem isListed
  have others : (before ++ after).Perm records := by
    have all := sortedByRank_perm rank (records ++ [added])
    rw [split] at all
    have rearranged := all.trans (List.perm_append_singleton added records)
    exact (List.perm_middle.symm.trans rearranged).cons_inv
  have inOrder : (before ++ after).Pairwise fun earlier later =>
      (rank earlier).precedes (rank later) = true := by
    have ordered := pairwise_sortedByRank rank (records ++ [added])
    rw [split] at ordered
    exact ordered.sublist ((List.sublist_cons_self added after).append_left before)
  refine ⟨before, after, ?_, split⟩
  rw [← sortedByRank_eq_of_nodup_ids id rankId others distinct]
  exact List.mergeSort_of_pairwise inOrder

end LearnExport
