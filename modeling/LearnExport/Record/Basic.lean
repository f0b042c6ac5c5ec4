import LearnExport.Entity
import LearnExport.Number.Binary64
import LearnExport.Record.Granularity
import LearnExport.Time.Instant

/-!
# Records

What a store returns for each entity. Relations to labelled entities are
already reduced to ids and labels; events keep the ids they refer to.
-/

namespace LearnExport

/-- A related record, reduced to its id and its label. -/
structure Related where
  id : Int64
  name : String
deriving DecidableEq, Repr

/-- A block of the programming language, with its place among the blocks. -/
structure Block where
  id : Int64
  name : String
  order : Int32
deriving DecidableEq, Repr

/-- A set of blocks that a level offers. -/
structure Toolbox where
  id : Int64
  name : String
  blocks : List Related
deriving DecidableEq, Repr

/-- A level of the course: its number, the credits for each of its tasks, the
toolbox it offers and the tasks that belong to it. -/
structure Level where
  id : Int64
  level : Int32
  name : String
  credits : Int32
  toolbox : Related
  tasks : List Related
deriving DecidableEq, Repr

/-- An instruction shown to students. -/
structure Instruction where
  id : Int64
  name : String
deriving DecidableEq, Repr

/-- A task with the level it belongs to. -/
structure Task where
  id : Int64
  name : String
  level : Related
  setting : String
  solution : String
deriving DecidableEq, Repr

/-- A student with the credits of the tasks they solved and the instructions
they have seen. -/
structure Student where
  id : Int64
  credits : Int64
  seenInstructions : List Related
deriving DecidableEq, Repr

/-- A student's work on a task, which may not have ended. -/
structure TaskSession where
  id : Int64
  studentId : Int64
  taskId : Int64
  solved : Bool
  start : Time.Instant
  stop : Option Time.Instant
deriving DecidableEq

/-- A program as it was at one point of a task session. Whether it was correct
may be unknown. -/
structure ProgramSnapshot where
  id : Int64
  taskSessionId : Int64
  time : Time.Instant
  program : String
  granularity : Granularity
  correct : Option Bool
deriving DecidableEq

/-- Something a student did. -/
structure Action where
  id : Int64
  name : String
  studentId : Int64
  taskId : Option Int64
  time : Time.Instant
  randomness : Option Number.Binary64
  data : String
deriving DecidableEq

namespace Entity

abbrev Record : Entity → Type
  | block => Block
  | toolbox => Toolbox
  | level => Level
  | instruction => Instruction
  | task => Task
  | student => Student
  | taskSession => TaskSession
  | programSnapshot => ProgramSnapshot
  | action => Action

def recordId : (entity : Entity) → entity.Record → Int64
  | block, record => record.id
  | toolbox, record => record.id
  | level, record => record.id
  | instruction, record => record.id
  | task, record => record.id
  | student, record => record.id
  | taskSession, record => record.id
  | programSnapshot, record => record.id
  | action, record => record.id

end Entity

end LearnExport
