import LearnExport.Record.Basic

/-!
# Stored records

A store keeps a level with the id of its toolbox and a task with the id of its
level. The record that a store returns has the related record in place of the
id, so a stored record whose related record is missing is not returned at all.
-/

namespace LearnExport

/-- A level as it is stored. -/
structure StoredLevel where
  id : Int64
  level : Int32
  name : String
  credits : Int32
  toolboxId : Int64
deriving DecidableEq, Repr

/-- The level itself, reduced to its id and its label. -/
def StoredLevel.related (level : StoredLevel) : Related :=
  ⟨level.id, level.name⟩

def StoredLevel.withRelations (level : StoredLevel) (toolbox : Related)
    (tasks : List Related) : Level where
  id := level.id
  level := level.level
  name := level.name
  credits := level.credits
  toolbox := toolbox
  tasks := tasks

/-- A task as it is stored. -/
structure StoredTask where
  id : Int64
  name : String
  levelId : Int64
  setting : String
  solution : String
deriving DecidableEq, Repr

/-- The task itself, reduced to its id and its label. -/
def StoredTask.related (task : StoredTask) : Related :=
  ⟨task.id, task.name⟩

def StoredTask.withLevel (task : StoredTask) (level : Related) : Task where
  id := task.id
  name := task.name
  level := level
  setting := task.setting
  solution := task.solution

/-- A block reduced to its id and its label. -/
def Block.related (block : Block) : Related :=
  ⟨block.id, block.name⟩

/-- An instruction reduced to its id and its label. -/
def Instruction.related (instruction : Instruction) : Related :=
  ⟨instruction.id, instruction.name⟩

def totalCredits (levels : List StoredLevel) : Int64 :=
  levels.foldl (fun total level => total + level.credits.toInt64) 0

end LearnExport
