import LearnExport.Record.Row
import LearnExport.Render.Delimited
import LearnExport.Render.Sheet
import LearnExport.Text.Utf8

/-!
# Rendered tables

The same rows in each of the formats. JSON writes the rows as they are, one
after the other in an array; the other formats write the grid of the entity's
columns.
-/

namespace LearnExport

/-- A rendered table: a text, or a spreadsheet. -/
inductive Document where
  | text (content : String)
  | sheet (content : Sheet)
deriving DecidableEq, Repr

/-- The bytes of a document, given how a sheet is packed into a file. -/
def Document.bytes (pack : Sheet → List UInt8) : Document → List UInt8
  | text content => Text.utf8Bytes content.toList
  | sheet content => pack content

def render (entity : Entity) (rows : List Json) (format : Format) :
    Except RenderError Document :=
  match format with
  | .json => .ok (.text (Json.array rows).compact)
  | .csv => (Delimited.render ',' entity rows).map fun text => .text (String.ofList text)
  | .tsv => (Delimited.render '\t' entity rows).map fun text => .text (String.ofList text)
  | .xlsx => (Sheet.render entity rows).map .sheet

/-- A table that is ready to be sent. -/
structure RenderedTable where
  entity : Entity
  format : Format
  rowCount : Nat
  document : Document
deriving DecidableEq, Repr

def RenderedTable.ofRecords (entity : Entity) (records : List entity.Record) (format : Format) :
    Except RenderError RenderedTable :=
  (render entity (records.map (entity.row ·)) format).map fun document =>
    { entity, format, rowCount := records.length, document }

end LearnExport
