import LearnExport.Proofs.Record.StableOrder
import LearnExport.Store.Relational

/-!
# Related records in groups

The related records of all owners are read in one list, ordered by the related
record and not by owner, and then grouped. The group of an owner is what a query
for this owner alone would have read, so it does not matter whether one query is
asked for all owners or one for each, nor in which order and how often an owner
is asked for.
-/

namespace LearnExport

open Schema

namespace Schema

/-- The related records of one owner among those of several. -/
def ownedBy (owned : List OwnedRelated) (owner : Int64) : List Related :=
  (owned.filter fun related => related.ownerId == owner).map (·.record)

namespace RelatedGroups

theorem foldl_add_apply (groups : RelatedGroups) (owned : List OwnedRelated) (owner : Int64) :
    (owned.foldl add groups) owner =
      if ownedBy owned owner = [] then groups owner
      else some ((groups owner).getD [] ++ ownedBy owned owner) := by
  induction owned generalizing groups with
  | nil => simp [ownedBy]
  | cons first others ih =>
      rw [List.foldl_cons, ih]
      -- A record is added to the group of its own owner and to no other.
      by_cases isOwner : first.ownerId = owner
      · have added : (groups.add first) owner =
            some ((groups owner).getD [] ++ [first.record]) := by
          simp [add, isOwner]
        have consEq : ownedBy (first :: others) owner = first.record :: ownedBy others owner := by
          simp [ownedBy, isOwner]
        rw [added, consEq]
        by_cases noOthers : ownedBy others owner = [] <;> simp [noOthers]
      · have kept : (groups.add first) owner = groups owner := by
          simp [add, Ne.symm isOwner]
        have consEq : ownedBy (first :: others) owner = ownedBy others owner := by
          simp [ownedBy, isOwner]
        rw [kept, consEq]

/-- An owner has a group if it has related records, and the group holds them in
the order in which they were read. -/
theorem ofList_apply (owned : List OwnedRelated) (owner : Int64) :
    ofList owned owner = if ownedBy owned owner = [] then none else some (ownedBy owned owner) := by
  rw [ofList, foldl_add_apply]
  rfl

/-- As long as no two records share an id, taking a group away leaves the groups
of the other records as they were. -/
theorem distribute_eq_map {α β : Type} {id : α → Int64} {records : List α}
    (distinct : (records.map id).Nodup) (complete : α → List Related → β)
    (groups : RelatedGroups) :
    groups.distribute id complete records =
      records.map fun record => complete record ((groups (id record)).getD []) := by
  induction records generalizing groups with
  | nil => rfl
  | cons record others ih =>
      obtain ⟨fresh, distinctOthers⟩ := List.nodup_cons.mp distinct
      rw [distribute, ih distinctOthers, List.map_cons]
      congr 1
      apply List.map_congr_left
      intro other member
      have different : id other ≠ id record := by
        intro same
        exact fresh (same ▸ List.mem_map_of_mem member)
      simp [remove, different]

end RelatedGroups

namespace Tables

/-- The records to which one owner is related, in their order. -/
def relatedTo (tables : Tables) (relation : Relation) (owner : Int64) : List Related :=
  match relation with
  | .toolboxBlocks =>
      (sortedByRank Block.rank
        (((tables.rows .toolboxBlocks).filter fun row => row.toolboxId == owner).flatMap
          fun row => (tables.rows .blocks).filter fun block => block.id == row.blockId)).map
        Block.related
  | .levelTasks =>
      sortedByRank Related.rank
        (((tables.rows .tasks).filter fun task => task.levelId == owner).map StoredTask.related)
  | .seenInstructions =>
      sortedByRank Related.rank
        (((tables.rows .seenInstructions).filter fun row => row.studentId == owner).flatMap
          fun row => ((tables.rows .instructions).filter fun instruction =>
            instruction.id == row.instructionId).map Instruction.related)

/-- Joining the rows of several owners and keeping what belongs to one of them is
joining the rows of that one. -/
private theorem filter_owner_flatMap {ρ γ : Type} (ownerOfRow : ρ → Int64)
    (ownerOf : γ → Int64) {join : ρ → List γ}
    (tagged : ∀ row, ∀ joined ∈ join row, ownerOf joined = ownerOfRow row)
    (owners : List Int64) (owner : Int64) (rows : List ρ) :
    ((rows.filter fun row => owners.contains (ownerOfRow row)).flatMap join).filter
        (fun joined => ownerOf joined == owner) =
      if owner ∈ owners then (rows.filter fun row => ownerOfRow row == owner).flatMap join
      else [] := by
  induction rows with
  | nil => simp
  | cons row others ih =>
      have ofRow : (join row).filter (fun joined => ownerOf joined == owner) =
          if ownerOfRow row = owner then join row else [] := by
        split
        · rename_i same
          refine List.filter_eq_self.mpr fun joined member => ?_
          rw [tagged row joined member, same, beq_self_eq_true]
        · rename_i different
          refine List.filter_eq_nil_iff.mpr fun joined member => ?_
          rw [tagged row joined member, beq_iff_eq]
          exact different
      by_cases asked : ownerOfRow row ∈ owners
      · rw [List.filter_cons_of_pos (by simpa using asked), List.flatMap_cons, List.filter_append,
          ih, ofRow]
        by_cases same : ownerOfRow row = owner
        · subst same
          simp [asked]
        · simp [same]
      · rw [List.filter_cons_of_neg (by simpa using asked), ih]
        by_cases same : ownerOfRow row = owner
        · subst same
          simp [asked]
        · simp [same]

/-- Among the related records of several owners are those of each one that was
asked for, in the same order as if it alone had been asked for. -/
theorem ownedBy_related (tables : Tables) (relation : Relation) (owners : List Int64)
    (owner : Int64) :
    ownedBy (tables.related relation owners) owner =
      if owner ∈ owners then tables.relatedTo relation owner else [] := by
  cases relation with
  | toolboxBlocks =>
      rw [ownedBy, related, List.filter_map, List.map_map]
      change ((sortedByRank _ _).filter fun pair : Int64 × Block => pair.1 == owner).map
        (Block.related ∘ Prod.snd) = _
      -- The sort is stable, so what belongs to one owner can be chosen before it.
      rw [filter_sortedByRank, filter_owner_flatMap Membership.toolboxId Prod.fst (by
        intro row joined member
        obtain ⟨block, _, rfl⟩ := List.mem_map.mp member
        rfl)]
      split
      · rw [← List.map_map, map_sortedByRank Block.rank (fun _ => rfl), List.map_flatMap]
        simp [relatedTo, Function.comp_def]
      · simp [sortedByRank]
  | levelTasks =>
      rw [ownedBy, related, filter_sortedByRank,
        List.map_eq_flatMap
          (f := fun task : StoredTask => OwnedRelated.mk task.levelId task.related),
        filter_owner_flatMap StoredTask.levelId OwnedRelated.ownerId (by simp)]
      split
      · rw [← List.map_eq_flatMap, map_sortedByRank Related.rank (fun _ => rfl)]
        simp [relatedTo, Function.comp_def]
      · simp [sortedByRank]
  | seenInstructions =>
      rw [ownedBy, related, filter_sortedByRank,
        filter_owner_flatMap Sighting.studentId OwnedRelated.ownerId (by
          intro row joined member
          obtain ⟨instruction, _, rfl⟩ := List.mem_map.mp member
          rfl)]
      split
      · rw [map_sortedByRank Related.rank (fun _ => rfl), List.map_flatMap]
        simp [relatedTo, Function.comp_def]
      · simp [sortedByRank]

/-- The groups of some owners: what each is related to, if anything. -/
def groupsOf (tables : Tables) (relation : Relation) (owners : List Int64) : RelatedGroups :=
  fun owner =>
    if owner ∈ owners ∧ tables.relatedTo relation owner ≠ [] then
      some (tables.relatedTo relation owner)
    else none

/-- Grouping what was read for some owners gives each of them its own. -/
theorem ofList_related (tables : Tables) (relation : Relation) (owners : List Int64) :
    RelatedGroups.ofList (tables.related relation owners) = tables.groupsOf relation owners := by
  funext owner
  rw [RelatedGroups.ofList_apply, ownedBy_related, groupsOf]
  by_cases asked : owner ∈ owners <;> by_cases none : tables.relatedTo relation owner = [] <;>
    simp [asked, none]

theorem getD_groupsOf (tables : Tables) (relation : Relation) {owners : List Int64}
    {owner : Int64} (asked : owner ∈ owners) :
    (tables.groupsOf relation owners owner).getD [] = tables.relatedTo relation owner := by
  by_cases none : tables.relatedTo relation owner = [] <;> simp [groupsOf, asked, none]

/-- Groups read for one owner and then for others are those read for all. -/
theorem extend_groupsOf (tables : Tables) (relation : Relation) (found : RelatedGroups)
    (owner : Int64) (others : List Int64) :
    (found.extend (tables.groupsOf relation [owner])).extend (tables.groupsOf relation others) =
      found.extend (tables.groupsOf relation (owner :: others)) := by
  funext asked
  by_cases isOwner : asked = owner <;> by_cases isOther : asked ∈ others <;>
    by_cases none : tables.relatedTo relation asked = [] <;>
    simp [RelatedGroups.extend, groupsOf, isOwner, isOther, none] <;> simp_all

end Tables

end Schema

namespace Database

/-- A database that answers all it can answers every query but those with a text
that it cannot store. -/
theorem answer_ofTables {α : Type} {query : Query}
    (storable : ∀ text, query.text? = some text → '\x00' ∉ text.toList)
    (tables : Tables) (value : α) : (ofTables tables).answer query value = .ok value := by
  have noFault : (ofTables tables).queryFault? query = none := by
    rw [queryFault?, ofTables]
    cases asked : query.text? with
    | none => rfl
    | some text => simp [storable text asked]
  rw [answer, noFault]

/-- A query with a text is answered if the text can be stored. -/
theorem answer_ofTables_of_text {α : Type} {query : Query} {text : String}
    (hasText : query.text? = some text) (storable : '\x00' ∉ text.toList) (tables : Tables)
    (value : α) : (ofTables tables).answer query value = .ok value := by
  refine answer_ofTables ?_ tables value
  intro other hasOther
  rw [← Option.some.inj (hasText.symm.trans hasOther)]
  exact storable

theorem relatedOnce_ofTables (tables : Tables) (relation : Relation) (owners : List Int64) :
    (ofTables tables).relatedOnce relation owners = .ok (tables.groupsOf relation owners) := by
  unfold relatedOnce
  split
  · rename_i nobody
    rw [List.isEmpty_iff.mp nobody]
    rfl
  · rw [answer_ofTables (by simp [Query.text?])]
    exact congrArg Except.ok (tables.ofList_related relation owners)

/-- Asking for one owner after the other adds their groups to those already
found. -/
theorem relatedEach_ofTables (tables : Tables) (relation : Relation) (found : RelatedGroups)
    (owners : List Int64) :
    (ofTables tables).relatedEach relation found owners =
      .ok (found.extend (tables.groupsOf relation owners)) := by
  induction owners generalizing found with
  | nil => rfl
  | cons owner others ih =>
      rw [relatedEach, relatedOnce_ofTables]
      change (ofTables tables).relatedEach relation _ others = _
      rw [ih, Tables.extend_groupsOf]

/-- Both ways of reading a relation find the same groups. -/
theorem related_ofTables (tables : Tables) (loading : RelationLoading) (relation : Relation)
    (owners : List Int64) :
    (ofTables tables).related loading relation owners = .ok (tables.groupsOf relation owners) := by
  cases loading with
  | batched => exact relatedOnce_ofTables tables relation owners
  | perRecord =>
      rw [related, relatedEach_ofTables]
      congr 1
      funext owner
      simp [RelatedGroups.extend, RelatedGroups.empty]

end Database

end LearnExport
