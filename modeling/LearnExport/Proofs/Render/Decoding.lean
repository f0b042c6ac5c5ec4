import LearnExport.Proofs.Render.DelimitedReader
import LearnExport.Render.Table

/-!
# Delimited text is decoded exactly

Rows that are objects are always written as delimited text, and a reader that
knows only the delimiter gets the whole grid back: the names of the columns, then
for each row one text for each column. The members of a row may stand in any
order, hold any values, be missing or belong to no column.
-/

namespace LearnExport

/-- The text that a table shows of a row in a column: nothing where the row has
no such member or a null. -/
def shownText (members : List (String × Json)) (column : String) : List Char :=
  match Json.member? column members with
  | none | some .null => []
  | some value => cellText value

theorem cellText_getD_member? (members : List (String × Json)) (column : String) :
    cellText ((Json.member? column members).getD .null) = shownText members column := by
  cases found : Json.member? column members with
  | none => simp [shownText, found, cellText]
  | some value => cases value <;> simp [shownText, found, cellText]

namespace Delimited

theorem rowFields_object (entity : Entity) (members : List (String × Json)) :
    rowFields entity (.object members) = .ok (entity.columns.map (shownText members)) := by
  simp [rowFields, rowValues, columnValues, Except.map, cellText_getD_member?]

/-- A table is written as the names of its columns and the fields of its rows, if
all rows have fields. -/
theorem render_map {α : Type} {entity : Entity} {toRow : α → Json} {fields : α → List (List Char)}
    (hasFields : ∀ element, rowFields entity (toRow element) = .ok (fields element))
    (delimiter : Char) (elements : List α) :
    Delimited.render delimiter entity (elements.map toRow) =
      .ok ((entity.columns.map String.toList :: elements.map fields).flatMap
        (record delimiter)) := by
  have rows : traverse (rowFields entity) (elements.map toRow) = .ok (elements.map fields) := by
    rw [traverse_eq_ok_iff, List.map_map, List.map_map]
    exact List.map_congr_left fun element _ => hasFields element
  rw [Delimited.render, records, rows]
  rfl

/-- The records of a table whose rows have the given members. -/
def objectRecords (entity : Entity) (rows : List (List (String × Json))) :
    List (List (List Char)) :=
  entity.columns.map String.toList ::
    rows.map fun members => entity.columns.map (shownText members)

theorem length_of_mem_objectRecords {entity : Entity} {rows : List (List (String × Json))}
    {fields : List (List Char)} (member : fields ∈ objectRecords entity rows) :
    fields.length = entity.columns.length := by
  rcases List.mem_cons.mp member with isHeader | isRow
  · rw [isHeader, List.length_map]
  · obtain ⟨members, _, rfl⟩ := List.mem_map.mp isRow
    rw [List.length_map]

/-- That a text is decoded as the table of some rows. -/
structure Decodes (delimiter : Char) (entity : Entity) (rows : List (List (String × Json)))
    (text : List Char) : Prop where
  records : read delimiter text =
    entity.columns.map String.toList ::
      rows.map fun members => entity.columns.map (shownText members)
  recordCount : (read delimiter text).length = rows.length + 1
  fieldCount : ∀ fields ∈ read delimiter text, fields.length = entity.columns.length

theorem decodes_objectRecords {delimiter : Char} (isDelimiter : IsDelimiter delimiter)
    (entity : Entity) (rows : List (List (String × Json))) :
    Decodes delimiter entity rows ((objectRecords entity rows).flatMap (record delimiter)) := by
  have severalFields : ∀ fields ∈ objectRecords entity rows, 2 ≤ fields.length := by
    intro fields member
    rw [length_of_mem_objectRecords member]
    exact entity.two_le_length_columns
  have decoded := read_flatMap_record isDelimiter severalFields
  refine ⟨decoded, ?_, ?_⟩
  · rw [decoded, objectRecords, List.length_cons, List.length_map]
  · intro fields member
    rw [decoded] at member
    exact length_of_mem_objectRecords member

end Delimited

/-- Rows that are objects are rendered as CSV and as TSV, and reading either text
gives the names of the columns and then the fields of every row, with as many
fields as there are columns. -/
theorem decodes_rendered_objects (entity : Entity) (rows : List (List (String × Json))) :
    ∃ csv tsv : String,
      (render entity (rows.map .object) .csv = .ok (.text csv) ∧
        Delimited.Decodes ',' entity rows csv.toList) ∧
      (render entity (rows.map .object) .tsv = .ok (.text tsv) ∧
        Delimited.Decodes '\t' entity rows tsv.toList) := by
  have decoded {delimiter : Char} (isDelimiter : Delimited.IsDelimiter delimiter) :
      Delimited.Decodes delimiter entity rows
        (String.ofList ((Delimited.objectRecords entity rows).flatMap
          (Delimited.record delimiter))).toList := by
    rw [String.toList_ofList]
    exact Delimited.decodes_objectRecords isDelimiter entity rows
  have written (delimiter : Char) :=
    Delimited.render_map (Delimited.rowFields_object entity) delimiter rows
  refine ⟨_, _, ⟨?_, decoded ⟨by decide, by decide, by decide⟩⟩,
    ⟨?_, decoded ⟨by decide, by decide, by decide⟩⟩⟩
  · rw [render, written]
    rfl
  · rw [render, written]
    rfl

/-- A reader also takes a carriage return for the end of a record, and any
character between quotes for one of the field. -/
example : Delimited.read ',' ['a', ',', '"', 'b', '"', '"', '\n', ',', '"', '\r', '\n', 'c', ','] =
    [[['a'], ['b', '"', '\n', ',']], [['c'], []]] := by
  decide

end LearnExport
