import LearnExport.Schema.Draft
import LearnExport.Schema.Refusal

/-!
# The state of the tables

The rows of each table in the order of insertion, and the last number that each
table has given out as a key. Rows are inserted and deleted one at a time, and
a refused row changes nothing except that its number is used up.
-/

namespace LearnExport.Schema

/-- The contents of all tables. -/
structure Tables where
  rows : (table : Table) → List table.Row
  lastNumber : Table → Nat

namespace Tables

/-- Tables without rows. -/
def empty : Tables where
  rows _ := []
  lastNumber _ := 0

def hasKey (tables : Tables) (table : Table) (key : table.Key) : Bool :=
  (tables.rows table).any fun row => table.key row == key

def hasNameOf (tables : Tables) (table : Table) (row : table.Row) : Bool :=
  match table.uniqueName? row with
  | some name => (tables.rows table).any fun other => table.uniqueName? other == some name
  | none => false

def isBroken (tables : Tables) {table : Table} (row : table.Row) (reference : Reference) : Bool :=
  if isSource : table = reference.source then
    match reference.key? (isSource ▸ row) with
    | some key => !tables.hasKey reference.target key
    | none => false
  else false

/-- The first rule about the values of a row that it breaks. -/
def brokenCheck? : (table : Table) → table.Row → Option Check
  | .programSnapshots, row => [Check.judgement, .granularity].find? fun check => !check.holds row
  | .blocks, _ | .toolboxes, _ | .toolboxBlocks, _ | .levels, _ | .tasks, _ | .instructions, _
  | .students, _ | .seenInstructions, _ | .taskSessions, _ | .actions, _ | .tokens, _
  | .tokenPermissions, _ => none

/-- The first rule that keeps a row out of a table: a rule about its values,
its key, its name, a reference. -/
def refusal? (tables : Tables) (table : Table) (row : table.Row) : Option Refusal :=
  match brokenCheck? table row with
  | some check => some (.brokenCheck check)
  | none =>
      if tables.hasKey table (table.key row) then some (.repeatedKey table)
      else if tables.hasNameOf table row then some (.repeatedName table)
      else (Reference.all.find? (tables.isBroken row)).map .brokenReference

def append (tables : Tables) (table : Table) (row : table.Row) : Tables :=
  let rows := tables.rows table ++ [row]
  { tables with
    rows := fun other => if same : table = other then same ▸ rows else tables.rows other }

@[simp]
theorem rows_append_self (tables : Tables) (table : Table) (row : table.Row) :
    (tables.append table row).rows table = tables.rows table ++ [row] := by
  simp [append]

theorem rows_append_of_ne (tables : Tables) {table other : Table} (row : table.Row)
    (different : table ≠ other) : (tables.append table row).rows other = tables.rows other := by
  simp [append, different]

/-- The tables after one of them has given out a number. -/
def useNumber (tables : Tables) (table : Table) : Tables :=
  let number := tables.lastNumber table + 1
  { tables with
    lastNumber := fun other => if other = table then number else tables.lastNumber other }

@[simp]
theorem rows_useNumber (tables : Tables) (table : Table) :
    (tables.useNumber table).rows = tables.rows := rfl

/-- Why a draft cannot even be read as a row. -/
def draftRefusal? (table : Table) (draft : table.Draft) : Option Refusal :=
  if (table.texts draft).any fun text => text.toList.contains '\x00' then some .unstorableText
  else if table.hasLongText draft then some .textTooLong
  else none

/-- Puts a draft, completed by a number and the present, into a table. -/
def accept (tables : Tables) (table : Table) (number : Int64) (now : Time.Instant)
    (draft : table.Draft) : Except Refusal Tables :=
  match table.complete? number now draft with
  | none => .error .missingValue
  | some row =>
      match tables.refusal? table row with
      | some refusal => .error refusal
      | none => .ok (tables.append table row)

/-- Inserts a draft into a table: the tables afterwards, and why the row was
refused if it was. -/
def insert (tables : Tables) (table : Table) (now : Time.Instant) (draft : table.Draft) :
    Tables × Option Refusal :=
  match draftRefusal? table draft with
  | some refusal => (tables, some refusal)
  | none =>
      let numbered := if table.needsNumber draft then tables.useNumber table else tables
      match numbered.accept table (.ofNat (numbered.lastNumber table)) now draft with
      | .ok inserted => (inserted, none)
      | .error refusal => (numbered, some refusal)

/-- Whether a row is deleted along with the row of a table with a key: it is
that row, or it refers to it by a column that cascades. -/
def goesWith (table : Table) (key : table.Key) {other : Table} (row : other.Row) : Bool :=
  (if same : other = table then table.key (same ▸ row) == key else false) ||
    Reference.all.any fun reference => reference.cascades && reference.refers row key

/-- Whether a row keeps the row of a table with a key from being deleted. -/
def isKept (tables : Tables) (table : Table) (key : table.Key) (reference : Reference) : Bool :=
  !reference.cascades && (tables.rows reference.source).any fun row => reference.refers row key

/-- Deletes the row of a table with a key, if there is one: the tables
afterwards and the number of rows that had the key. -/
def delete (tables : Tables) (table : Table) (key : table.Key) :
    Except Refusal (Tables × Nat) :=
  if tables.hasKey table key then
    match Reference.all.find? (tables.isKept table key) with
    | some reference => .error (.brokenReference reference)
    | none =>
        .ok ({ tables with
          rows := fun other => (tables.rows other).filter fun row => !goesWith table key row }, 1)
  else .ok (tables, 0)

end Tables

end LearnExport.Schema
