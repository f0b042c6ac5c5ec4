import LearnExport.Schema.Relation
import LearnExport.Store.Basic

/-!
# Queries

What is asked of the database. A fetch reads the records of an entity by one
query and their relations by others; the owner of a token takes two queries.
-/

namespace LearnExport

/-- A query to the database. -/
inductive Query where
  /-- The owner of an active token. -/
  | token (key : String)
  /-- The permissions of a token. -/
  | permissions (key : String)
  /-- The records of an entity without their relations to many. -/
  | records (entity : Entity) (scope : Scope)
  /-- The records related to any of some owners. -/
  | related (relation : Schema.Relation) (owners : List Int64)
  /-- The ids of the records of an entity with a label. -/
  | labelled (entity : Entity) (label : String)
deriving DecidableEq, Repr

/-- How the relations of several records are read. -/
inductive RelationLoading where
  /-- By one query for all of them. -/
  | batched
  /-- By a query for each of them. -/
  | perRecord
deriving DecidableEq, Repr

def Query.text? : Query → Option String
  | .token key | .permissions key => some key
  | .labelled _ label => some label
  | .records _ _ | .related _ _ => none

end LearnExport
