import LearnExport.Json.Basic
import LearnExport.Record.Basic

/-!
# Rows

A record is exported as a row: an object with exactly the entity's columns, in
order. Labelled relations are shown by their labels alone, instants by their
texts, and a measured value that is no real number as null. A snapshot taken at
an edit is never judged, whatever its record says.
-/

namespace LearnExport

def labels (related : List Related) : Json :=
  .array (related.map fun record => .string record.name)

def idValue (id : Int64) : Json :=
  .integer id.toInt

def numberValue (number : Int32) : Json :=
  .integer number.toInt

def instantValue (instant : Time.Instant) : Json :=
  .string instant.text

/-- The judgement of a snapshot that is exported: only executions are
judged. -/
def ProgramSnapshot.judgement (snapshot : ProgramSnapshot) : Option Bool :=
  match snapshot.granularity with
  | .execution => snapshot.correct
  | .edit => none

namespace Entity

/-- The values of a record's row, column by column. -/
def cells : (entity : Entity) → entity.Record → List Json
  | block, record => [idValue record.id, .string record.name, numberValue record.order]
  | toolbox, record => [idValue record.id, .string record.name, labels record.blocks]
  | level, record =>
      [idValue record.id, numberValue record.level, .string record.name,
        numberValue record.credits, .string record.toolbox.name, labels record.tasks]
  | instruction, record => [idValue record.id, .string record.name]
  | task, record =>
      [idValue record.id, .string record.name, .string record.level.name,
        .string record.setting, .string record.solution]
  | student, record =>
      [idValue record.id, idValue record.credits, labels record.seenInstructions]
  | taskSession, record =>
      [idValue record.id, idValue record.studentId, idValue record.taskId, .bool record.solved,
        instantValue record.start, .ofOption instantValue record.stop]
  | programSnapshot, record =>
      [idValue record.id, idValue record.taskSessionId, instantValue record.time,
        .string record.program, .string record.granularity.name,
        .ofOption .bool record.judgement]
  | action, record =>
      [idValue record.id, .string record.name, idValue record.studentId,
        .ofOption idValue record.taskId, instantValue record.time,
        .ofOption .ofDouble record.randomness, .string record.data]

theorem length_cells (entity : Entity) (record : entity.Record) :
    (entity.cells record).length = entity.columns.length := by
  cases entity <;> rfl

def row (entity : Entity) (record : entity.Record) : Json :=
  .object (entity.columns.zip (entity.cells record))

end Entity

end LearnExport
