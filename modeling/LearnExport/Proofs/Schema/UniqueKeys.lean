import Mathlib.Data.List.Nodup
import Mathlib.Data.List.Perm.Lattice

/-!
# Rows with different keys

Where no two rows have the same key, a key finds one row at most, whatever the
order of the rows, and to look up some keys one after the other finds the same
rows as to go through all rows and keep those with one of the keys.
-/

namespace LearnExport

variable {α β κ μ : Type} {key : α → κ} {rows : List α}

/-- Records made of rows with different keys have different keys. -/
theorem nodup_map_filterMap (key : α → κ) {newKey : β → κ} {join? : α → Option β}
    (sameKey : ∀ row record, join? row = some record → newKey record = key row)
    (distinct : (rows.map key).Nodup) : ((rows.filterMap join?).map newKey).Nodup := by
  rw [List.Nodup, List.pairwise_map] at distinct ⊢
  refine distinct.filterMap join? ?_
  intro row other different record fromRow another fromOther
  rw [sameKey row record fromRow, sameKey other another fromOther]
  exact different

variable [DecidableEq κ]

theorem find?_key_eq_some_iff (distinct : (rows.map key).Nodup) {wanted : κ} {row : α} :
    (rows.find? fun row => key row == wanted) = some row ↔ row ∈ rows ∧ key row = wanted := by
  constructor
  · intro found
    exact ⟨List.mem_of_find?_eq_some found, by simpa using List.find?_some found⟩
  · rintro ⟨member, isKey⟩
    cases found : rows.find? fun row => key row == wanted with
    | none =>
        have noneHasKey := List.find?_eq_none.mp found row member
        exact absurd (by simpa using isKey) noneHasKey
    | some other =>
        have otherMember := List.mem_of_find?_eq_some found
        have otherKey : key other = wanted := by simpa using List.find?_some found
        rw [List.inj_on_of_nodup_map distinct otherMember member (otherKey.trans isKey.symm)]

/-- The row that a key finds does not depend on the order of the rows. -/
theorem find?_key_eq_of_perm {others : List α} (rearranged : others.Perm rows)
    (distinct : (rows.map key).Nodup) (wanted : κ) :
    (others.find? fun row => key row == wanted) = rows.find? fun row => key row == wanted := by
  have othersDistinct : (others.map key).Nodup :=
    (rearranged.map key).nodup_iff.mpr distinct
  apply Option.ext
  intro row
  rw [find?_key_eq_some_iff othersDistinct, find?_key_eq_some_iff distinct, rearranged.mem_iff]

/-- To look up the value that is made of a row is to make it of the row that the
key finds. -/
theorem lookup_map_key (key : α → κ) (value : α → β) (rows : List α) (wanted : κ) :
    (rows.map fun row => (key row, value row)).lookup wanted =
      (rows.find? fun row => key row == wanted).map value := by
  induction rows with
  | nil => rfl
  | cons row others ih =>
      rw [List.map_cons, List.lookup_cons, List.find?_cons]
      by_cases isKey : key row = wanted
      · simp [isKey]
      · simp [beq_eq_false_iff_ne.mpr isKey, beq_eq_false_iff_ne.mpr (Ne.symm isKey), ih]

theorem filter_key_eq_toList_find? (distinct : (rows.map key).Nodup) (wanted : κ) :
    (rows.filter fun row => key row == wanted) =
      (rows.find? fun row => key row == wanted).toList := by
  induction rows with
  | nil => rfl
  | cons row others ih =>
      obtain ⟨fresh, distinctOthers⟩ := List.nodup_cons.mp distinct
      by_cases isKey : key row = wanted
      · have noOther : (others.filter fun other => key other == wanted) = [] := by
          refine List.filter_eq_nil_iff.mpr fun other member same => ?_
          rw [beq_iff_eq, ← isKey] at same
          exact fresh (same ▸ List.mem_map_of_mem member)
        simp [isKey, noOther]
      · simpa [isKey] using ih distinctOthers

/-- A key asks about its own row alone. -/
theorem any_key_eq (distinct : (rows.map key).Nodup) {row : α} (member : row ∈ rows)
    (test : α → Bool) : (rows.any fun other => key other == key row && test other) = test row := by
  rw [Bool.eq_iff_iff, List.any_eq_true]
  constructor
  · rintro ⟨other, isRow, passes⟩
    obtain ⟨sameKey, passesTest⟩ := Bool.and_eq_true_iff.mp passes
    rwa [List.inj_on_of_nodup_map distinct isRow member (beq_iff_eq.mp sameKey)] at passesTest
  · intro passesTest
    exact ⟨row, member, by simp [passesTest]⟩

/-- Rows are only rearranged when they are gone through key by key, as long as no key
is gone through twice and each row has one of the keys. -/
theorem flatMap_filter_key_perm {keys : List κ} (distinct : keys.Nodup)
    (covered : ∀ row ∈ rows, key row ∈ keys) :
    (keys.flatMap fun wanted => rows.filter fun row => key row == wanted).Perm rows := by
  induction keys generalizing rows with
  | nil =>
      have noRows : rows = [] :=
        List.eq_nil_iff_forall_not_mem.mpr fun row member =>
          List.not_mem_nil (covered row member)
      rw [noRows]
      rfl
  | cons first others ih =>
      obtain ⟨fresh, distinctOthers⟩ := List.nodup_cons.mp distinct
      have othersCovered :
          ∀ row ∈ rows.filter (fun row => !(key row == first)), key row ∈ others := by
        intro row member
        obtain ⟨isRow, notFirst⟩ := List.mem_filter.mp member
        refine (List.mem_cons.mp (covered row isRow)).resolve_left fun isFirst => ?_
        simp [isFirst] at notFirst
      have sameOthers : (others.flatMap fun wanted => rows.filter fun row => key row == wanted) =
          others.flatMap fun wanted => (rows.filter fun row => !(key row == first)).filter
            fun row => key row == wanted := by
        refine List.flatMap_congr fun wanted isOther => ?_
        rw [List.filter_filter]
        refine List.filter_congr fun row _ => ?_
        by_cases isWanted : key row = wanted
        · have notFirst : key row ≠ first := fun isFirst => fresh (isFirst ▸ isWanted ▸ isOther)
          simp [isWanted ▸ notFirst, isWanted]
        · simp [isWanted]
      rw [List.flatMap_cons, sameOthers]
      exact ((ih distinctOthers othersCovered).append_left _).trans
        (List.filter_append_perm (fun row => key row == first) rows)

/-- Of rows whose keys are pairs, those with the same first part differ in the
second. -/
theorem nodup_map_filter_fst {first : α → κ} {second : α → μ}
    (distinct : (rows.map fun row => (first row, second row)).Nodup) (fixed : κ) :
    ((rows.filter fun row => first row == fixed).map second).Nodup := by
  refine List.Nodup.map_on ?_ (distinct.of_map.filter _)
  intro row member other otherMember sameSecond
  obtain ⟨isRow, isFixed⟩ := List.mem_filter.mp member
  obtain ⟨isOther, otherFixed⟩ := List.mem_filter.mp otherMember
  refine List.inj_on_of_nodup_map distinct isRow isOther ?_
  rw [beq_iff_eq.mp isFixed, beq_iff_eq.mp otherFixed, sameSecond]

/-- Looking up different keys one after the other finds the rows that have one of
them. -/
theorem filterMap_find?_perm_filter {keys : List κ} (distinct : (rows.map key).Nodup)
    (distinctKeys : keys.Nodup) :
    (keys.filterMap fun wanted => rows.find? fun row => key row == wanted).Perm
      (rows.filter fun row => keys.contains (key row)) := by
  have found {wanted : κ} {row : α} : (rows.find? fun row => key row == wanted) = some row ↔
      row ∈ rows ∧ key row = wanted := find?_key_eq_some_iff distinct
  have distinctFound : (keys.filterMap fun wanted =>
      rows.find? fun row => key row == wanted).Nodup := by
    refine List.Nodup.filterMap ?_ distinctKeys
    intro wanted other row isFound isOther
    exact (found.mp isFound).2.symm.trans (found.mp isOther).2
  refine (List.perm_ext_iff_of_nodup distinctFound (distinct.of_map.filter _)).mpr ?_
  intro row
  rw [List.mem_filterMap, List.mem_filter, List.contains_iff_mem]
  constructor
  · rintro ⟨wanted, isWanted, isFound⟩
    obtain ⟨member, isKey⟩ := found.mp isFound
    exact ⟨member, isKey ▸ isWanted⟩
  · rintro ⟨member, isWanted⟩
    exact ⟨key row, isWanted, found.mpr ⟨member, rfl⟩⟩

end LearnExport
