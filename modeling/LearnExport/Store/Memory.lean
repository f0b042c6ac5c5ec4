import LearnExport.Record.Order
import LearnExport.Store.Basic

/-!
# Records kept in memory

A course with its students and their history, entered record by record. Nothing
is checked when a record is entered: ids may repeat and may refer to records
that do not exist. A reference then means the record that was entered first,
and a reference that a record cannot do without takes the record out of the
listing. Only tokens replace each other: the owner entered last holds the token.
-/

namespace LearnExport

/-- A toolbox as it is entered, with the ids of its blocks. -/
structure EnteredToolbox where
  id : Int64
  name : String
  blockIds : List Int64
deriving DecidableEq, Repr

/-- The toolbox itself, reduced to its id and its label. -/
def EnteredToolbox.related (toolbox : EnteredToolbox) : Related :=
  ⟨toolbox.id, toolbox.name⟩

/-- A student as entered, with the ids of the instructions they have seen. -/
structure EnteredStudent where
  id : Int64
  seenIds : List Int64
deriving DecidableEq, Repr

/-- All that has been entered, in the order of entry; tokens in the opposite
order. -/
structure Memory where
  blocks : List Block
  toolboxes : List EnteredToolbox
  levels : List StoredLevel
  instructions : List Instruction
  tasks : List StoredTask
  students : List EnteredStudent
  taskSessions : List TaskSession
  programSnapshots : List ProgramSnapshot
  actions : List Action
  tokens : List (String × Principal)
deriving DecidableEq

namespace Memory

/-- Something to enter. -/
inductive Entry where
  | block (block : Block)
  | toolbox (toolbox : EnteredToolbox)
  | level (level : StoredLevel)
  | instruction (instruction : Instruction)
  | task (task : StoredTask)
  | student (student : EnteredStudent)
  | taskSession (session : TaskSession)
  | programSnapshot (snapshot : ProgramSnapshot)
  | action (action : Action)
  | token (key : String) (owner : Principal)
deriving DecidableEq

/-- Nothing entered. -/
def empty : Memory where
  blocks := []
  toolboxes := []
  levels := []
  instructions := []
  tasks := []
  students := []
  taskSessions := []
  programSnapshots := []
  actions := []
  tokens := []

/-- Enters one more record or token. -/
def insert (memory : Memory) : Entry → Memory
  | .block block => { memory with blocks := memory.blocks ++ [block] }
  | .toolbox toolbox => { memory with toolboxes := memory.toolboxes ++ [toolbox] }
  | .level level => { memory with levels := memory.levels ++ [level] }
  | .instruction instruction =>
      { memory with instructions := memory.instructions ++ [instruction] }
  | .task task => { memory with tasks := memory.tasks ++ [task] }
  | .student student => { memory with students := memory.students ++ [student] }
  | .taskSession session => { memory with taskSessions := memory.taskSessions ++ [session] }
  | .programSnapshot snapshot =>
      { memory with programSnapshots := memory.programSnapshots ++ [snapshot] }
  | .action action => { memory with actions := memory.actions ++ [action] }
  | .token key owner => { memory with tokens := (key, owner) :: memory.tokens }

/-- Enters a list of records and tokens, first to last. -/
def insertAll (memory : Memory) (entries : List Entry) : Memory :=
  entries.foldl insert memory

/-- Removes the task sessions with an id, and with them their snapshots. -/
def eraseTaskSession (memory : Memory) (id : Int64) : Memory :=
  { memory with
    taskSessions := memory.taskSessions.filter fun session => session.id != id
    programSnapshots :=
      memory.programSnapshots.filter fun snapshot => snapshot.taskSessionId != id }

/-- The block that an id means. -/
def block? (memory : Memory) (id : Int64) : Option Block :=
  memory.blocks.find? fun block => block.id == id

/-- The toolbox that an id means. -/
def toolbox? (memory : Memory) (id : Int64) : Option EnteredToolbox :=
  memory.toolboxes.find? fun toolbox => toolbox.id == id

/-- The level that an id means. -/
def level? (memory : Memory) (id : Int64) : Option StoredLevel :=
  memory.levels.find? fun level => level.id == id

/-- The ids of the tasks that a student has solved, as often as they have. -/
def solvedTaskIds (memory : Memory) (studentId : Int64) : List Int64 :=
  (memory.taskSessions.filter fun session =>
    session.studentId == studentId && session.solved).map (·.taskId)

/-- The credits of a student: those of each task they have solved, however
often, by the task's level. -/
def credits (memory : Memory) (studentId : Int64) : Int64 :=
  let solved := memory.solvedTaskIds studentId
  totalCredits ((memory.tasks.filter fun task => solved.contains task.id).filterMap
    fun task => memory.level? task.levelId)

def blocksOf (memory : Memory) (toolbox : EnteredToolbox) : List Related :=
  (sortedByRank Block.rank (toolbox.blockIds.filterMap memory.block?)).map Block.related

def tasksOf (memory : Memory) (levelId : Int64) : List Related :=
  sortedByRank Related.rank
    ((memory.tasks.filter fun task => task.levelId == levelId).map StoredTask.related)

def seenBy (memory : Memory) (student : EnteredStudent) : List Related :=
  sortedByRank Related.rank
    ((memory.instructions.filter fun instruction =>
      student.seenIds.contains instruction.id).map Instruction.related)

def joinToolbox (memory : Memory) (toolbox : EnteredToolbox) : Toolbox where
  id := toolbox.id
  name := toolbox.name
  blocks := memory.blocksOf toolbox

/-- A level with its toolbox and tasks, if it has a toolbox. -/
def joinLevel? (memory : Memory) (level : StoredLevel) : Option Level :=
  (memory.toolbox? level.toolboxId).map fun toolbox =>
    level.withRelations toolbox.related (memory.tasksOf level.id)

def joinTask? (memory : Memory) (task : StoredTask) : Option Task :=
  (memory.level? task.levelId).map fun level => task.withLevel level.related

/-- A student with their credits and the instructions they have seen. -/
def joinStudent (memory : Memory) (student : EnteredStudent) : Student where
  id := student.id
  credits := memory.credits student.id
  seenInstructions := memory.seenBy student

/-- Those of some entered records whose ids are asked for, by id. -/
def byId {α : Type} (id : α → Int64) (scope : Scope) (entered : List α) : List α :=
  sortedByRank (fun record => idRank (id record))
    (entered.filter fun record => scope.includes (id record))

/-- The records of an entity that are asked for, in the order in which they are
listed. They are joined with what they refer to in the order of their ids; blocks
and levels are put into their own order after that. -/
def fetch (memory : Memory) (entity : Entity) (scope : Scope) : List entity.Record :=
  match entity with
  | .block => sortedByRank Block.rank (byId (·.id) scope memory.blocks)
  | .toolbox => (byId (·.id) scope memory.toolboxes).map memory.joinToolbox
  | .level =>
      sortedByRank Level.rank ((byId (·.id) scope memory.levels).filterMap memory.joinLevel?)
  | .instruction => byId (·.id) scope memory.instructions
  | .task => (byId (·.id) scope memory.tasks).filterMap memory.joinTask?
  | .student => (byId (·.id) scope memory.students).map memory.joinStudent
  | .taskSession => byId (·.id) scope memory.taskSessions
  | .programSnapshot => byId (·.id) scope memory.programSnapshots
  | .action => byId (·.id) scope memory.actions

/-- The records of an entity with their labels, in the order of entry, if the
entity has labels. -/
def labelled? (memory : Memory) : Entity → Option (List Related)
  | .block => some (memory.blocks.map Block.related)
  | .toolbox => some (memory.toolboxes.map EnteredToolbox.related)
  | .level => some (memory.levels.map StoredLevel.related)
  | .instruction => some (memory.instructions.map Instruction.related)
  | .task => some (memory.tasks.map StoredTask.related)
  | .student | .taskSession | .programSnapshot | .action => none

def idsLabelled (memory : Memory) (entity : Entity) (label : String) :
    Except StoreError (List Int64) :=
  match memory.labelled? entity with
  | some related =>
      .ok ((sortedByRank Related.rank
        (related.filter fun record => record.name == label)).map (·.id))
  | none => .error (.unlabelled entity)

def principal? (memory : Memory) (token : String) : Option Principal :=
  memory.tokens.lookup token

/-- The store over what has been entered. -/
def toStore (memory : Memory) : Store where
  fetch entity scope := .ok (memory.fetch entity scope)
  idsLabelled := memory.idsLabelled
  principal token := .ok (memory.principal? token)

end Memory

end LearnExport
