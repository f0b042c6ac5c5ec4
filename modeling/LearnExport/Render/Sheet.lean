import LearnExport.Render.Grid

/-!
# Spreadsheets

A table as a spreadsheet is one sheet, named for its entity, with the column
names in the first row. Booleans and numbers keep their type, a number as the
nearest double; all other cells are the texts of the grid, and an empty text
leaves its cell blank. A sheet has at most 1,048,576 rows and a text in it at
most 32,767 characters. Cells are written row by row, so the first fault is the
one that is reported.
-/

namespace LearnExport.Sheet

def rowLimit : Nat := 1048576

/-- The number of characters that a text in a cell can have. -/
def textLimit : Nat := 32767

/-- A cell. -/
inductive Cell where
  | blank
  | text (value : String)
  | bool (value : Bool)
  | number (value : Number.Binary64)
deriving DecidableEq, Repr

def textCell (text : List Char) : Except RenderError Cell :=
  if text.isEmpty then .ok .blank
  else if textLimit < text.length then .error .textTooLong
  else .ok (.text (String.ofList text))

def cell : Json → Except RenderError Cell
  | .null => .ok .blank
  | .bool value => .ok (.bool value)
  | .integer value => .ok (.number (.ofInt value))
  | .double value => .ok (.number value)
  | value => textCell (cellText value)

/-- The cell of a value in the row with the given number, counted from zero:
beyond the last row only blank cells can be written. -/
def cellAt (row : Nat) (value : Json) : Except RenderError Cell :=
  if (cellText value).isEmpty then .ok .blank
  else if rowLimit ≤ row then .error .tooManyRows
  else cell value

def rowCells (entity : Entity) (row : Json × Nat) : Except RenderError (List Cell) :=
  match rowValues entity row.1 with
  | .error error => .error error
  | .ok values => traverse (cellAt row.2) values

/-- The first row of a sheet: the column names. -/
def header (entity : Entity) : List Cell :=
  entity.columns.map .text

end Sheet

/-- A sheet: its name and its rows, all as wide as the first. -/
structure Sheet where
  name : String
  rows : List (List Sheet.Cell)
deriving DecidableEq, Repr

namespace Sheet

def render (entity : Entity) (rows : List Json) : Except RenderError Sheet :=
  (traverse (rowCells entity) (rows.zipIdx 1)).map fun cells =>
    { name := entity.path, rows := header entity :: cells }

/-- The rows up to the last one that is not blank throughout. -/
def usedRows (sheet : Sheet) : List (List Cell) :=
  (sheet.rows.reverse.dropWhile fun row => row.all (· == .blank)).reverse

end Sheet

end LearnExport
