import LearnExport.Schema.Joins
import LearnExport.Store.Query
import LearnExport.Traverse

/-!
# Records read from the tables

A fetch reads the records of an entity by one query and their relations by
others, either one query for the relation of all records or one for each record.
The owner of a token takes two queries. Any query may fail, and then so does
what it was for; which queries fail is part of the database here, so that the
answers of a store that always works can be compared with those of one that
does not.
-/

namespace LearnExport

open Schema

/-- A database: its tables, and the queries that it does not answer. -/
structure Database where
  tables : Tables
  fault? : Query → Option DatabaseFault

namespace Database

/-- The database over tables that answers every query. -/
def ofTables (tables : Tables) : Database where
  tables := tables
  fault? _ := none

/-- A database to which there is no connection any more. -/
def closed : Database where
  tables := .empty
  fault? _ := some .poolClosed

/-- What the server says to a text with a character that no text of the database
may hold. -/
def unstorableText : DatabaseFault :=
  .server "invalid byte sequence for encoding \"UTF8\": 0x00"

/-- Why a query is not answered, if it is not. -/
def queryFault? (database : Database) (query : Query) : Option DatabaseFault :=
  database.fault? query <|>
    if query.text?.any fun text => text.toList.contains '\x00' then some unstorableText
    else none

/-- An answer to a query, unless the query fails. -/
def answer {α : Type} (database : Database) (query : Query) (value : α) :
    Except StoreError α :=
  match database.queryFault? query with
  | some fault => .error (.database fault)
  | none => .ok value

/-- The related records of some owners, read by one query. Without owners nothing
is asked. -/
def relatedOnce (database : Database) (relation : Relation) (owners : List Int64) :
    Except StoreError RelatedGroups :=
  if owners.isEmpty then .ok .empty
  else
    (database.answer (.related relation owners) (database.tables.related relation owners)).map
      .ofList

/-- The related records of some owners in addition to those already found, read by
a query for each owner. -/
def relatedEach (database : Database) (relation : Relation) :
    RelatedGroups → List Int64 → Except StoreError RelatedGroups
  | found, [] => .ok found
  | found, owner :: others => do
      let more ← database.relatedOnce relation [owner]
      database.relatedEach relation (found.extend more) others

/-- The related records of some owners, read in one way or the other. -/
def related (database : Database) (loading : RelationLoading) (relation : Relation)
    (owners : List Int64) : Except StoreError RelatedGroups :=
  match loading with
  | .batched => database.relatedOnce relation owners
  | .perRecord => database.relatedEach relation .empty owners

def decodeSnapshot (row : SnapshotRow) : Except StoreError ProgramSnapshot :=
  match row.decode? with
  | some snapshot => .ok snapshot
  | none =>
      .error (.database (.undecodable "granularity" (Granularity.unknownMessage row.granularity)))

/-- The records of an entity that are asked for, in the order in which they are
listed. -/
def fetch (database : Database) (loading : RelationLoading) (entity : Entity) (scope : Scope) :
    Except StoreError (List entity.Record) :=
  let tables := database.tables
  let query := Query.records entity scope
  match entity with
  | .block => database.answer query (Entity.block.sorted (tables.within scope .blocks (·.id)))
  | .toolbox => do
      let rows ← database.answer query
        (sortedByRank (fun row => idRank row.id) (tables.within scope .toolboxes (·.id)))
      let blocks ← database.related loading .toolboxBlocks (rows.map (·.id))
      return blocks.distribute (·.id) ToolboxRow.withBlocks rows
  | .level => do
      let rows ← database.answer query (tables.levelsWithToolboxes scope)
      let tasks ← database.related loading .levelTasks (rows.map (·.1.id))
      return tasks.distribute (·.1.id)
        (fun row tasks => row.1.withRelations row.2.related tasks) rows
  | .instruction =>
      database.answer query (Entity.instruction.sorted (tables.within scope .instructions (·.id)))
  | .task => database.answer query (tables.tasksWithLevels scope)
  | .student => do
      let rows ← database.answer query
        (sortedByRank (fun row => idRank row.id) (tables.within scope .students (·.id)))
      let seen ← database.related loading .seenInstructions (rows.map (·.id))
      return seen.distribute (·.id)
        (fun row seen => row.withInstructions (tables.credits row.id) seen) rows
  | .taskSession =>
      database.answer query (Entity.taskSession.sorted (tables.within scope .taskSessions (·.id)))
  | .programSnapshot => do
      let rows ← database.answer query
        (sortedByRank (fun row => idRank row.id) (tables.within scope .programSnapshots (·.id)))
      traverse decodeSnapshot rows
  | .action =>
      database.answer query (Entity.action.sorted (tables.within scope .actions (·.id)))

/-- The ids of the records of an entity with a label, in ascending order. An
entity without labels is refused before anything is asked. -/
def idsLabelled (database : Database) (entity : Entity) (label : String) :
    Except StoreError (List Int64) :=
  match database.tables.labels? entity with
  | some rows =>
      database.answer (.labelled entity label)
        ((sortedByRank Related.rank (rows.filter fun row => row.name == label)).map (·.id))
  | none => .error (.unlabelled entity)

/-- The owner of an active token, with their permissions. -/
def principal (database : Database) (token : String) : Except StoreError (Option Principal) := do
  let row? ← database.answer (.token token)
    ((database.tables.rows .tokens).find? fun row => row.key == token && row.isActive)
  match row? with
  | none => return none
  | some row =>
      let codenames ← database.answer (.permissions token)
        (((database.tables.rows .tokenPermissions).filter fun grant => grant.key == token).map
          (·.codename))
      return some {
        username := row.username
        isSuperuser := row.isSuperuser
        permissions := .ofList codenames }

def toStore (database : Database) (loading : RelationLoading) : Store where
  fetch := database.fetch loading
  idsLabelled := database.idsLabelled
  principal := database.principal

end Database

end LearnExport
