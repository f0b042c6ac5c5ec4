import LearnExport.Record.Order
import LearnExport.Record.Scope
import LearnExport.Schema.Relation
import LearnExport.Schema.Tables

/-!
# What is read from the tables

Each of these lists is what one query reads: the rows in question, joined with
the rows they refer to, in the order in which they are listed.
-/

namespace LearnExport.Schema.Tables

/-- The rows of a table whose ids are asked for. -/
def within (tables : Tables) (scope : Scope) (table : Table) (id : table.Row → Int64) :
    List table.Row :=
  (tables.rows table).filter fun row => scope.includes (id row)

/-- The records related to any of some owners: blocks in their order, tasks and
instructions by id. -/
def related (tables : Tables) (relation : Relation) (owners : List Int64) :
    List OwnedRelated :=
  match relation with
  | .toolboxBlocks =>
      (sortedByRank (fun pair : Int64 × Block => pair.2.rank)
        (((tables.rows .toolboxBlocks).filter fun row => owners.contains row.toolboxId).flatMap
          fun row => ((tables.rows .blocks).filter fun block => block.id == row.blockId).map
            fun block => (row.toolboxId, block))).map
        fun pair => ⟨pair.1, pair.2.related⟩
  | .levelTasks =>
      sortedByRank (fun owned : OwnedRelated => owned.record.rank)
        (((tables.rows .tasks).filter fun task => owners.contains task.levelId).map
          fun task => ⟨task.levelId, task.related⟩)
  | .seenInstructions =>
      sortedByRank (fun owned : OwnedRelated => owned.record.rank)
        (((tables.rows .seenInstructions).filter fun row => owners.contains row.studentId).flatMap
          fun row => ((tables.rows .instructions).filter fun instruction =>
              instruction.id == row.instructionId).map
            fun instruction => ⟨row.studentId, instruction.related⟩)

/-- The levels asked for, each with its toolbox, in the order of the levels. -/
def levelsWithToolboxes (tables : Tables) (scope : Scope) : List (StoredLevel × ToolboxRow) :=
  sortedByRank (fun pair => pair.1.rank)
    ((tables.within scope .levels (·.id)).flatMap fun level =>
      ((tables.rows .toolboxes).filter fun toolbox => toolbox.id == level.toolboxId).map
        fun toolbox => (level, toolbox))

/-- The tasks asked for, each with its level, by id. -/
def tasksWithLevels (tables : Tables) (scope : Scope) : List Task :=
  Entity.task.sorted ((tables.within scope .tasks (·.id)).flatMap fun task =>
    ((tables.rows .levels).filter fun level => level.id == task.levelId).map
      fun level => task.withLevel level.related)

/-- The credits of a student: the sum over the tasks that some session of theirs
has solved. -/
def credits (tables : Tables) (studentId : Int64) : Int64 :=
  let solved := ((tables.rows .taskSessions).filter fun session =>
    session.studentId == studentId && session.solved).map (·.taskId)
  totalCredits (((tables.rows .tasks).filter fun task => solved.contains task.id).flatMap
    fun task => (tables.rows .levels).filter fun level => level.id == task.levelId)

def labels? (tables : Tables) : Entity → Option (List Related)
  | .block => some ((tables.rows .blocks).map Block.related)
  | .toolbox => some ((tables.rows .toolboxes).map ToolboxRow.related)
  | .level => some ((tables.rows .levels).map StoredLevel.related)
  | .instruction => some ((tables.rows .instructions).map Instruction.related)
  | .task => some ((tables.rows .tasks).map StoredTask.related)
  | .student | .taskSession | .programSnapshot | .action => none


end LearnExport.Schema.Tables
