import LearnExport.Record.Basic

/-!
# Relations to many

Three relations lead from a record to any number of others. They are read for
several owners at once, so each related record comes with its owner, and are
then grouped by owner.
-/

namespace LearnExport.Schema

/-- A relation of records to many others. -/
inductive Relation where
  | toolboxBlocks
  | levelTasks
  | seenInstructions
deriving DecidableEq, Repr

/-- A related record with the id of the record that it belongs to. -/
structure OwnedRelated where
  ownerId : Int64
  record : Related
deriving DecidableEq, Repr

/-- Related records in groups, one for each owner that has any; in a group they
are in the order in which they were read. -/
def RelatedGroups : Type :=
  Int64 → Option (List Related)

namespace RelatedGroups

def empty : RelatedGroups :=
  fun _ => none

/-- The groups with one more record at the end of its owner's group. -/
def add (groups : RelatedGroups) (owned : OwnedRelated) : RelatedGroups :=
  fun owner =>
    if owner = owned.ownerId then some ((groups owner).getD [] ++ [owned.record])
    else groups owner

/-- The groups of the records that were read. -/
def ofList (owned : List OwnedRelated) : RelatedGroups :=
  owned.foldl add empty

/-- The groups with others in addition, which replace those of the same owners. -/
def extend (groups others : RelatedGroups) : RelatedGroups :=
  fun owner => others owner <|> groups owner

/-- The groups without that of one owner. -/
def remove (groups : RelatedGroups) (removed : Int64) : RelatedGroups :=
  fun owner => if owner = removed then none else groups owner

/-- Completes records one after the other. Each takes the group of its id away,
or gets no related records if there is none. -/
def distribute {α β : Type} (id : α → Int64) (complete : α → List Related → β) :
    RelatedGroups → List α → List β
  | _, [] => []
  | groups, record :: others =>
      complete record ((groups (id record)).getD []) ::
        distribute id complete (groups.remove (id record)) others

end RelatedGroups

end LearnExport.Schema
