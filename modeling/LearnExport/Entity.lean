/-!
# The exported entities

Nine kinds of records are exported, each as one table with a fixed list of
columns, under one path, to callers with one permission. Five of them have a
name by which other records refer to them; the others are known by their id
alone.
-/

namespace LearnExport

/-- A kind of exported records. -/
inductive Entity where
  | block
  | toolbox
  | level
  | instruction
  | task
  | student
  | taskSession
  | programSnapshot
  | action
deriving DecidableEq, Repr, Inhabited

namespace Entity

def all : List Entity :=
  [block, toolbox, level, instruction, task, student, taskSession, programSnapshot, action]

/-- The path segment of the entity's table, which is also the name of its
spreadsheet and of its files. -/
def path : Entity → String
  | block => "blocks"
  | toolbox => "toolboxes"
  | level => "levels"
  | instruction => "instructions"
  | task => "tasks"
  | student => "students"
  | taskSession => "task-sessions"
  | programSnapshot => "program-snapshots"
  | action => "actions"

def ofPath? (segment : String) : Option Entity :=
  all.find? fun entity => entity.path == segment

/-- The name of the entity in messages about single records. -/
def title : Entity → String
  | block => "Block"
  | toolbox => "Toolbox"
  | level => "Level"
  | instruction => "Instruction"
  | task => "Task"
  | student => "Student"
  | taskSession => "TaskSession"
  | programSnapshot => "ProgramSnapshot"
  | action => "Action"

def columns : Entity → List String
  | block => ["id", "name", "order"]
  | toolbox => ["id", "name", "blocks"]
  | level => ["id", "level", "name", "credits", "toolbox", "tasks"]
  | instruction => ["id", "name"]
  | task => ["id", "name", "level", "setting", "solution"]
  | student => ["id", "credits", "seen_instructions"]
  | taskSession => ["id", "student", "task", "solved", "start", "end"]
  | programSnapshot => ["id", "task_session", "time", "program", "granularity", "correct"]
  | action => ["id", "name", "student", "task", "time", "randomness", "data"]

/-- No table is so narrow that a line of its text could be empty. -/
theorem two_le_length_columns (entity : Entity) : 2 ≤ entity.columns.length := by
  cases entity <;> decide

/-- The permission that a caller needs to read the entity's records. -/
def viewPermission : Entity → String
  | block => "learn.view_block"
  | toolbox => "learn.view_toolbox"
  | level => "learn.view_level"
  | instruction => "learn.view_instruction"
  | task => "learn.view_task"
  | student => "learn.view_student"
  | taskSession => "learn.view_tasksession"
  | programSnapshot => "learn.view_programsnapshot"
  | action => "learn.view_action"

/-- The table whose names label the entity's records, if they have labels. -/
def labelTable? : Entity → Option String
  | block => some "blocks"
  | toolbox => some "toolboxes"
  | level => some "levels"
  | instruction => some "instructions"
  | task => some "tasks"
  | student | taskSession | programSnapshot | action => none

end Entity

end LearnExport
