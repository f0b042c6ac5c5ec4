import LearnExport.Error
import LearnExport.Json.Compact
import LearnExport.Traverse

/-!
# The grid of a table

Every tabular format shows the same grid: one row for each object, and in it one
cell for each of the entity's columns, found by the column's name. A column that
an object does not have counts as null, and members that are no columns are left
out. Sequences and objects in a cell are shown by their compact JSON text.
-/

namespace LearnExport

def columnValues (entity : Entity) (members : List (String × Json)) : List Json :=
  entity.columns.map fun column => (Json.member? column members).getD .null

def rowValues (entity : Entity) : Json → Except RenderError (List Json)
  | .object members => .ok (columnValues entity members)
  | _ => .error (.notARow entity)

/-- The text of a cell: nothing for null, a string as it is, and all else as its
compact JSON text. -/
def cellText : Json → List Char
  | .null => []
  | .string value => value.toList
  | value => value.characters

end LearnExport
