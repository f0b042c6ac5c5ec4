import LearnExport.Record.Stored

/-!
# Rows of the tables

What the database keeps for each record. Relations of many to many have rows of
their own, the name of a granularity is kept as a text, and a token is kept
apart from its permissions.
-/

namespace LearnExport.Schema

/-- A toolbox without its blocks. -/
structure ToolboxRow where
  id : Int64
  name : String
deriving DecidableEq, Repr

/-- The toolbox reduced to its id and its label. -/
def ToolboxRow.related (toolbox : ToolboxRow) : Related :=
  ⟨toolbox.id, toolbox.name⟩

def ToolboxRow.withBlocks (toolbox : ToolboxRow) (blocks : List Related) : Toolbox where
  id := toolbox.id
  name := toolbox.name
  blocks := blocks

/-- That a toolbox has a block. -/
structure Membership where
  toolboxId : Int64
  blockId : Int64
deriving DecidableEq, Repr

/-- A student, of whom only the id is known. -/
structure StudentRow where
  id : Int64
deriving DecidableEq, Repr

def StudentRow.withInstructions (student : StudentRow) (credits : Int64)
    (seen : List Related) : Student where
  id := student.id
  credits := credits
  seenInstructions := seen

/-- That a student has seen an instruction. -/
structure Sighting where
  studentId : Int64
  instructionId : Int64
deriving DecidableEq, Repr

/-- A program snapshot whose granularity is the text that the database holds. -/
structure SnapshotRow where
  id : Int64
  taskSessionId : Int64
  time : Time.Instant
  program : String
  granularity : String
  correct : Option Bool
deriving DecidableEq

/-- The snapshot of a row, if its granularity has a known name. -/
def SnapshotRow.decode? (row : SnapshotRow) : Option ProgramSnapshot :=
  (Granularity.ofName? row.granularity).map fun granularity =>
    { id := row.id
      taskSessionId := row.taskSessionId
      time := row.time
      program := row.program
      granularity := granularity
      correct := row.correct }

/-- An API token with its owner. -/
structure TokenRow where
  key : String
  username : String
  isSuperuser : Bool
  isActive : Bool
deriving DecidableEq, Repr

/-- That the owner of a token has a permission. -/
structure Grant where
  key : String
  codename : String
deriving DecidableEq, Repr

end LearnExport.Schema
