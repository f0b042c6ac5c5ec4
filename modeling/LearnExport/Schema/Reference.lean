import LearnExport.Schema.Table

/-!
# References between tables

A column may refer to the key of a row in another table. When that row is
deleted, the rows that refer to it are either deleted with it or keep it from
being deleted.
-/

namespace LearnExport.Schema

/-- A column that refers to another table. -/
inductive Reference where
  | membershipToolbox
  | membershipBlock
  | levelToolbox
  | taskLevel
  | sightingStudent
  | sightingInstruction
  | sessionStudent
  | sessionTask
  | snapshotSession
  | actionStudent
  | actionTask
  | grantToken
deriving DecidableEq, Repr

namespace Reference

def all : List Reference :=
  [membershipToolbox, membershipBlock, levelToolbox, taskLevel, sightingStudent,
    sightingInstruction, sessionStudent, sessionTask, snapshotSession, actionStudent, actionTask,
    grantToken]

/-- Every reference is declared. -/
theorem mem_all (reference : Reference) : reference ∈ all := by
  cases reference <;> decide

abbrev source : Reference → Table
  | membershipToolbox | membershipBlock => .toolboxBlocks
  | levelToolbox => .levels
  | taskLevel => .tasks
  | sightingStudent | sightingInstruction => .seenInstructions
  | sessionStudent | sessionTask => .taskSessions
  | snapshotSession => .programSnapshots
  | actionStudent | actionTask => .actions
  | grantToken => .tokenPermissions

abbrev target : Reference → Table
  | membershipToolbox | levelToolbox => .toolboxes
  | membershipBlock => .blocks
  | taskLevel => .levels
  | sightingStudent | sessionStudent | actionStudent => .students
  | sightingInstruction => .instructions
  | sessionTask | actionTask => .tasks
  | snapshotSession => .taskSessions
  | grantToken => .tokens

def column : Reference → String
  | membershipToolbox | levelToolbox => "toolbox_id"
  | membershipBlock => "block_id"
  | taskLevel => "level_id"
  | sightingStudent | sessionStudent | actionStudent => "student_id"
  | sightingInstruction => "instruction_id"
  | sessionTask | actionTask => "task_id"
  | snapshotSession => "task_session_id"
  | grantToken => "key"

/-- Whether the rows that refer to a deleted row are deleted with it; otherwise
they keep it. -/
def cascades : Reference → Bool
  | membershipToolbox | membershipBlock | sightingStudent | sightingInstruction
  | snapshotSession | grantToken => true
  | levelToolbox | taskLevel | sessionStudent | sessionTask | actionStudent | actionTask => false

/-- The key to which a row refers; only an action may refer to no task. -/
def key? : (reference : Reference) → reference.source.Row → Option reference.target.Key
  | membershipToolbox, row => some row.toolboxId
  | membershipBlock, row => some row.blockId
  | levelToolbox, row => some row.toolboxId
  | taskLevel, row => some row.levelId
  | sightingStudent, row => some row.studentId
  | sightingInstruction, row => some row.instructionId
  | sessionStudent, row => some row.studentId
  | sessionTask, row => some row.taskId
  | snapshotSession, row => some row.taskSessionId
  | actionStudent, row => some row.studentId
  | actionTask, row => row.taskId
  | grantToken, row => some row.key

/-- A table whose rows are deleted along with others is itself not referred to,
so that one step of deletion is all there is. -/
theorem source_ne_target_of_cascades {first second : Reference}
    (cascading : first.cascades = true) : first.source ≠ second.target := by
  cases first <;> simp_all [cascades] <;> cases second <;> decide

/-- Whether a row of a table refers, by this column, to the row of another table
with a key. -/
def refers (reference : Reference) {table other : Table} (row : other.Row)
    (key : table.Key) : Bool :=
  if isSource : other = reference.source then
    if isTarget : table = reference.target then
      reference.key? (isSource ▸ row) == some (isTarget ▸ key)
    else false
  else false

end Reference

end LearnExport.Schema
