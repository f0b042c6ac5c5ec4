import LearnExport.Schema.Table

/-!
# Rows to be inserted

Whoever inserts a row may leave out columns, which is not the same as giving
null: a column that is left out takes its default, a null stays a null and is
refused in most columns. A draft is a row in this state.
-/

namespace LearnExport.Schema

/-- What is given for a column. -/
inductive Supplied (α : Type) where
  | omitted
  | null
  | given (value : α)
deriving DecidableEq, Repr

namespace Supplied

variable {α : Type}

def value? : Supplied α → Option α
  | given value => some value
  | omitted | null => none

/-- The value of a column that has a default; nothing if null is given. -/
def orDefault (supplied : Supplied α) (default : α) : Option α :=
  match supplied with
  | given value => some value
  | omitted => some default
  | null => none

/-- Whether the column is left out. -/
def isOmitted : Supplied α → Bool
  | omitted => true
  | null | given _ => false

/-- A column that is not left out does not take its default. -/
theorem orDefault_eq_of_not_isOmitted {supplied : Supplied α} (given : supplied.isOmitted = false)
    (default other : α) : supplied.orDefault default = supplied.orDefault other := by
  cases supplied with
  | omitted => cases given
  | null | given value => rfl

end Supplied

structure BlockDraft where
  id : Supplied Int64
  name : Supplied String
  order : Supplied Int32

/-- A toolbox or an instruction to be inserted. -/
structure NamedDraft where
  id : Supplied Int64
  name : Supplied String

/-- A block to be put into a toolbox. -/
structure MembershipDraft where
  toolboxId : Supplied Int64
  blockId : Supplied Int64

structure LevelDraft where
  id : Supplied Int64
  level : Supplied Int32
  name : Supplied String
  credits : Supplied Int32
  toolboxId : Supplied Int64

structure TaskDraft where
  id : Supplied Int64
  name : Supplied String
  levelId : Supplied Int64
  setting : Supplied String
  solution : Supplied String

structure StudentDraft where
  id : Supplied Int64

/-- An instruction that a student is to have seen. -/
structure SightingDraft where
  studentId : Supplied Int64
  instructionId : Supplied Int64

/-- A task session to be inserted. -/
structure SessionDraft where
  id : Supplied Int64
  studentId : Supplied Int64
  taskId : Supplied Int64
  solved : Supplied Bool
  start : Supplied Time.Instant
  stop : Supplied Time.Instant

/-- A program snapshot to be inserted. -/
structure SnapshotDraft where
  id : Supplied Int64
  taskSessionId : Supplied Int64
  time : Supplied Time.Instant
  program : Supplied String
  granularity : Supplied String
  correct : Supplied Bool

structure ActionDraft where
  id : Supplied Int64
  name : Supplied String
  studentId : Supplied Int64
  taskId : Supplied Int64
  time : Supplied Time.Instant
  randomness : Supplied Number.Binary64
  data : Supplied String

/-- A token to be inserted. When it was created is checked, but not kept. -/
structure TokenDraft where
  key : Supplied String
  username : Supplied String
  isSuperuser : Supplied Bool
  isActive : Supplied Bool
  createdAt : Supplied Time.Instant

/-- A permission to be given to the owner of a token. -/
structure GrantDraft where
  key : Supplied String
  codename : Supplied String

namespace Table

abbrev Draft : Table → Type
  | blocks => BlockDraft
  | toolboxes | instructions => NamedDraft
  | toolboxBlocks => MembershipDraft
  | levels => LevelDraft
  | tasks => TaskDraft
  | students => StudentDraft
  | seenInstructions => SightingDraft
  | taskSessions => SessionDraft
  | programSnapshots => SnapshotDraft
  | actions => ActionDraft
  | tokens => TokenDraft
  | tokenPermissions => GrantDraft

def texts : (table : Table) → table.Draft → List String
  | blocks, draft => draft.name.value?.toList
  | toolboxes, draft => draft.name.value?.toList
  | toolboxBlocks, _ => []
  | levels, draft => draft.name.value?.toList
  | tasks, draft => [draft.name, draft.setting, draft.solution].filterMap Supplied.value?
  | instructions, draft => draft.name.value?.toList
  | students, _ => []
  | seenInstructions, _ => []
  | taskSessions, _ => []
  | programSnapshots, draft => [draft.program, draft.granularity].filterMap Supplied.value?
  | actions, draft => [draft.name, draft.data].filterMap Supplied.value?
  | tokens, draft => [draft.key, draft.username].filterMap Supplied.value?
  | tokenPermissions, draft => [draft.key, draft.codename].filterMap Supplied.value?

/-- The number of characters of the longest text in the column of
granularities. -/
def granularityLength : Nat := 10

/-- Whether a text is too long for a column even without the spaces at its
end. -/
def isTooLong (length : Nat) (text : String) : Bool :=
  (text.toList.drop length).any (· != ' ')

def hasLongText : (table : Table) → table.Draft → Bool
  | programSnapshots, draft => draft.granularity.value?.any (isTooLong granularityLength)
  | blocks, _ | toolboxes, _ | toolboxBlocks, _ | levels, _ | tasks, _ | instructions, _
  | students, _ | seenInstructions, _ | taskSessions, _ | actions, _ | tokens, _
  | tokenPermissions, _ => false

def needsNumber : (table : Table) → table.Draft → Bool
  | blocks, draft => draft.id.isOmitted
  | toolboxes, draft => draft.id.isOmitted
  | levels, draft => draft.id.isOmitted
  | tasks, draft => draft.id.isOmitted
  | instructions, draft => draft.id.isOmitted
  | students, draft => draft.id.isOmitted
  | taskSessions, draft => draft.id.isOmitted
  | programSnapshots, draft => draft.id.isOmitted
  | actions, draft => draft.id.isOmitted
  | toolboxBlocks, _ | seenInstructions, _ | tokens, _ | tokenPermissions, _ => false

/-- An instant as the database keeps it, in whole microseconds. -/
def storedInstant (instant : Time.Instant) : Time.Instant :=
  .ofMicros instant.toMicros

/-- The row of a draft, given the next number of the table and the present;
nothing if a column that must have a value has none. -/
def complete? (number : Int64) (now : Time.Instant) :
    (table : Table) → table.Draft → Option table.Row
  | blocks, draft => do
      let id ← draft.id.orDefault number
      let name ← draft.name.value?
      let order ← draft.order.orDefault 0
      return { id, name, order }
  | toolboxes, draft => do
      let id ← draft.id.orDefault number
      let name ← draft.name.value?
      return { id, name }
  | toolboxBlocks, draft => do
      let toolboxId ← draft.toolboxId.value?
      let blockId ← draft.blockId.value?
      return { toolboxId, blockId }
  | levels, draft => do
      let id ← draft.id.orDefault number
      let level ← draft.level.value?
      let name ← draft.name.value?
      let credits ← draft.credits.orDefault 0
      let toolboxId ← draft.toolboxId.value?
      return { id, level, name, credits, toolboxId }
  | tasks, draft => do
      let id ← draft.id.orDefault number
      let name ← draft.name.value?
      let levelId ← draft.levelId.value?
      let setting ← draft.setting.orDefault ""
      let solution ← draft.solution.orDefault ""
      return { id, name, levelId, setting, solution }
  | instructions, draft => do
      let id ← draft.id.orDefault number
      let name ← draft.name.value?
      return { id, name }
  | students, draft => do
      let id ← draft.id.orDefault number
      return { id }
  | seenInstructions, draft => do
      let studentId ← draft.studentId.value?
      let instructionId ← draft.instructionId.value?
      return { studentId, instructionId }
  | taskSessions, draft => do
      let id ← draft.id.orDefault number
      let studentId ← draft.studentId.value?
      let taskId ← draft.taskId.value?
      let solved ← draft.solved.orDefault false
      let start ← draft.start.orDefault now
      return {
        id, studentId, taskId, solved
        start := storedInstant start
        stop := draft.stop.value?.map storedInstant }
  | programSnapshots, draft => do
      let id ← draft.id.orDefault number
      let taskSessionId ← draft.taskSessionId.value?
      let time ← draft.time.orDefault now
      let program ← draft.program.value?
      let granularity ← draft.granularity.orDefault "edit"
      return {
        id, taskSessionId, program
        time := storedInstant time
        granularity := String.ofList (granularity.toList.take granularityLength)
        correct := draft.correct.value? }
  | actions, draft => do
      let id ← draft.id.orDefault number
      let name ← draft.name.value?
      let studentId ← draft.studentId.value?
      let time ← draft.time.orDefault now
      let data ← draft.data.orDefault ""
      return {
        id, name, studentId, data
        taskId := draft.taskId.value?
        time := storedInstant time
        randomness := draft.randomness.value? }
  | tokens, draft => do
      let key ← draft.key.value?
      let username ← draft.username.value?
      let isSuperuser ← draft.isSuperuser.orDefault false
      let isActive ← draft.isActive.orDefault true
      let _ ← draft.createdAt.orDefault now
      return { key, username, isSuperuser, isActive }
  | tokenPermissions, draft => do
      let key ← draft.key.value?
      let codename ← draft.codename.value?
      return { key, codename }

/-- A draft that needs no number is completed to the same row with any. -/
theorem complete?_eq_of_not_needsNumber {table : Table} {draft : table.Draft}
    (given : table.needsNumber draft = false) (number other : Int64) (now : Time.Instant) :
    table.complete? number now draft = table.complete? other now draft := by
  cases table with
  | toolboxBlocks | seenInstructions | tokens | tokenPermissions => rfl
  | blocks | toolboxes | levels | tasks | instructions | students | taskSessions
  | programSnapshots | actions =>
      have sameId := Supplied.orDefault_eq_of_not_isOmitted given number other
      simp only [complete?, sameId]

end Table

end LearnExport.Schema
