import LearnExport.Render.Grid
import LearnExport.Text.Pieces

/-!
# Delimited text

A table as text has one record to a line and a delimiter between the fields of a
record; the first record holds the names of the columns. A field that holds the
delimiter, a quote or a line break is put between quotes, and the quotes in it
are doubled. All other fields are written as they are.
-/

namespace LearnExport.Delimited

def needsQuotes (delimiter : Char) (field : List Char) : Bool :=
  field.any fun character =>
    character == delimiter || character == '"' || character == '\r' || character == '\n'

/-- A character of a quoted field: a quote is written twice. -/
def doubled (character : Char) : List Char :=
  if character = '"' then ['"', '"'] else [character]

def field (delimiter : Char) (text : List Char) : List Char :=
  if needsQuotes delimiter text then '"' :: text.flatMap doubled ++ ['"'] else text

/-- The text of a record, with the line feed that ends it. -/
def record (delimiter : Char) (fields : List (List Char)) : List Char :=
  Text.joinWith [delimiter] (fields.map (field delimiter)) ++ ['\n']

def rowFields (entity : Entity) (row : Json) : Except RenderError (List (List Char)) :=
  (rowValues entity row).map fun values => values.map cellText

def records (entity : Entity) (rows : List Json) : Except RenderError (List (List (List Char))) :=
  (traverse (rowFields entity) rows).map fun fields =>
    (entity.columns.map String.toList) :: fields

/-- A table as delimited text. -/
def render (delimiter : Char) (entity : Entity) (rows : List Json) :
    Except RenderError (List Char) :=
  (records entity rows).map fun found => found.flatMap (record delimiter)

end LearnExport.Delimited
