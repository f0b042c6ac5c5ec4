import LearnExport.Schema.Row

/-!
# The tables

Thirteen tables hold the course, its students and the tokens. Each row has a
key that no other row of its table has, and in some tables a name of which the
same holds.
-/

namespace LearnExport.Schema

/-- A table of the database. -/
inductive Table where
  | blocks
  | toolboxes
  | toolboxBlocks
  | levels
  | tasks
  | instructions
  | students
  | seenInstructions
  | taskSessions
  | programSnapshots
  | actions
  | tokens
  | tokenPermissions
deriving DecidableEq, Repr

namespace Table

def all : List Table :=
  [blocks, toolboxes, toolboxBlocks, levels, tasks, instructions, students, seenInstructions,
    taskSessions, programSnapshots, actions, tokens, tokenPermissions]

def name : Table → String
  | blocks => "blocks"
  | toolboxes => "toolboxes"
  | toolboxBlocks => "toolbox_blocks"
  | levels => "levels"
  | tasks => "tasks"
  | instructions => "instructions"
  | students => "students"
  | seenInstructions => "student_seen_instructions"
  | taskSessions => "task_sessions"
  | programSnapshots => "program_snapshots"
  | actions => "actions"
  | tokens => "api_tokens"
  | tokenPermissions => "api_token_permissions"

def ofName? (name : String) : Option Table :=
  all.find? fun table => table.name == name

abbrev Row : Table → Type
  | blocks => Block
  | toolboxes => ToolboxRow
  | toolboxBlocks => Membership
  | levels => StoredLevel
  | tasks => StoredTask
  | instructions => Instruction
  | students => StudentRow
  | seenInstructions => Sighting
  | taskSessions => TaskSession
  | programSnapshots => SnapshotRow
  | actions => Action
  | tokens => TokenRow
  | tokenPermissions => Grant

abbrev Key : Table → Type
  | blocks | toolboxes | levels | tasks | instructions | students | taskSessions
  | programSnapshots | actions => Int64
  | toolboxBlocks | seenInstructions => Int64 × Int64
  | tokens => String
  | tokenPermissions => String × String

instance (table : Table) : DecidableEq table.Key :=
  match table with
  | blocks | toolboxes | levels | tasks | instructions | students | taskSessions
  | programSnapshots | actions => inferInstanceAs (DecidableEq Int64)
  | toolboxBlocks | seenInstructions => inferInstanceAs (DecidableEq (Int64 × Int64))
  | tokens => inferInstanceAs (DecidableEq String)
  | tokenPermissions => inferInstanceAs (DecidableEq (String × String))

def key : (table : Table) → table.Row → table.Key
  | blocks, row => row.id
  | toolboxes, row => row.id
  | toolboxBlocks, row => (row.toolboxId, row.blockId)
  | levels, row => row.id
  | tasks, row => row.id
  | instructions, row => row.id
  | students, row => row.id
  | seenInstructions, row => (row.studentId, row.instructionId)
  | taskSessions, row => row.id
  | programSnapshots, row => row.id
  | actions, row => row.id
  | tokens, row => row.key
  | tokenPermissions, row => (row.key, row.codename)

/-- The name of a row, in the tables where no two rows have the same. -/
def uniqueName? : (table : Table) → table.Row → Option String
  | blocks, row => some row.name
  | toolboxes, row => some row.name
  | levels, row => some row.name
  | tasks, row => some row.name
  | instructions, row => some row.name
  | toolboxBlocks, _ | students, _ | seenInstructions, _ | taskSessions, _
  | programSnapshots, _ | actions, _ | tokens, _ | tokenPermissions, _ => none

end Table

end LearnExport.Schema
