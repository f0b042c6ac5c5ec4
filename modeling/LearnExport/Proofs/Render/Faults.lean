import LearnExport.Proofs.Render.SheetGrid

/-!
# When a table cannot be rendered

Delimited text needs rows that are objects, and a spreadsheet also cells that are not too long; JSON
needs nothing. Rows are written first to last and their columns in order, so one fault anywhere is
enough to lose the whole table and the first row with a fault decides which it is. Members that
are no columns do not matter. Rows of records are objects, so only long cells can
spoil their tables, and only in a spreadsheet.
-/

namespace LearnExport

def Json.IsObject : Json → Prop
  | .object _ => True
  | _ => False

theorem rowValues_eq_error_iff {entity : Entity} {row : Json} {error : RenderError} :
    rowValues entity row = .error error ↔ ¬ row.IsObject ∧ error = .notARow entity := by
  cases row <;> simp [rowValues, Json.IsObject, eq_comm]

namespace Delimited

theorem rowFields_eq_error_iff {entity : Entity} {row : Json} {error : RenderError} :
    rowFields entity row = .error error ↔ ¬ row.IsObject ∧ error = .notARow entity := by
  rw [rowFields, map_eq_error_iff, rowValues_eq_error_iff]

/-- A delimited text is refused for a row that is no object, wherever it stands. -/
theorem render_eq_error_iff {delimiter : Char} {entity : Entity} {rows : List Json}
    {error : RenderError} :
    render delimiter entity rows = .error error ↔
      (∃ row ∈ rows, ¬ row.IsObject) ∧ error = .notARow entity := by
  rw [render, map_eq_error_iff, records, map_eq_error_iff]
  exact traverse_eq_error_iff_of_only fun _ _ => rowFields_eq_error_iff

end Delimited

namespace Sheet

/-- That a value is shown by a text that does not fit into a cell. -/
def IsTooLong : Json → Prop
  | .string value => textLimit < value.length
  | .array elements => textLimit < (Json.array elements).compact.length
  | .object members => textLimit < (Json.object members).compact.length
  | .null | .bool _ | .integer _ | .double _ => False

/-- What is wrong with a row of a table. -/
inductive RowFault (entity : Entity) : Json → RenderError → Prop
  | notAnObject {row : Json} (notObject : ¬ row.IsObject) : RowFault entity row (.notARow entity)
  | textTooLong {members : List (String × Json)} {column : String} {value : Json}
      (isColumn : column ∈ entity.columns) (found : Json.member? column members = some value)
      (tooLong : IsTooLong value) : RowFault entity (.object members) .textTooLong

theorem textCell_eq_error_iff {text : List Char} {error : RenderError} :
    textCell text = .error error ↔ textLimit < text.length ∧ error = .textTooLong := by
  unfold textCell
  split
  · rename_i empty
    simp [List.isEmpty_iff.mp empty]
  · split
    · rename_i tooLong
      simp [tooLong, eq_comm (a := error)]
    · rename_i fits
      simp [fits]

theorem cell_eq_error_iff {value : Json} {error : RenderError} :
    cell value = .error error ↔ IsTooLong value ∧ error = .textTooLong := by
  cases value with
  | null | bool | integer | double => simp [cell, IsTooLong]
  | string | array | object =>
      simp [cell, IsTooLong, textCell_eq_error_iff, cellText, Json.compact, String.length_toList]

theorem cell_eq_blank {value : Json} (empty : cellText value = []) : cell value = .ok .blank := by
  obtain rfl | rfl := cellText_eq_nil_iff.mp empty <;> rfl

/-- Within the sheet the number of a row makes no difference to its cells. -/
theorem cellAt_of_lt {row : Nat} (onSheet : row < rowLimit) (value : Json) :
    cellAt row value = cell value := by
  unfold cellAt
  split
  · rename_i empty
    exact (cell_eq_blank (List.isEmpty_iff.mp empty)).symm
  · rw [if_neg (not_le.mpr onSheet)]

/-- The cells of a row on the sheet. -/
def valueCells (entity : Entity) (row : Json) : Except RenderError (List Cell) :=
  match rowValues entity row with
  | .error error => .error error
  | .ok values => traverse cell values

theorem exists_tooLong_columnValues_iff {entity : Entity} {members : List (String × Json)} :
    (∃ value ∈ columnValues entity members, IsTooLong value) ↔
      ∃ column ∈ entity.columns, ∃ value, Json.member? column members = some value ∧
        IsTooLong value := by
  simp only [columnValues, List.mem_map, exists_exists_and_eq_and]
  refine exists_congr fun column => and_congr_right fun _ => ?_
  cases Json.member? column members with
  | none => simp [IsTooLong]
  | some value => simp

theorem traverse_cell_eq_error_iff {values : List Json} {error : RenderError} :
    traverse cell values = .error error ↔
      (∃ value ∈ values, IsTooLong value) ∧ error = .textTooLong :=
  traverse_eq_error_iff_of_only fun _ _ => cell_eq_error_iff

theorem valueCells_eq_error_iff {entity : Entity} {row : Json} {error : RenderError} :
    valueCells entity row = .error error ↔ RowFault entity row error := by
  constructor
  · intro fails
    cases row with
    | object members =>
        obtain ⟨tooLong, rfl⟩ := traverse_cell_eq_error_iff.mp fails
        obtain ⟨column, isColumn, value, found, tooLong⟩ :=
          exists_tooLong_columnValues_iff.mp tooLong
        exact .textTooLong isColumn found tooLong
    | null | bool | integer | double | string | array =>
        rw [← Except.error.inj fails]
        exact .notAnObject id
  · rintro (⟨notObject⟩ | ⟨isColumn, found, tooLong⟩)
    · rw [valueCells, rowValues_eq_error_iff.mpr ⟨notObject, rfl⟩]
    · exact traverse_cell_eq_error_iff.mpr
        ⟨exists_tooLong_columnValues_iff.mpr ⟨_, isColumn, _, found, tooLong⟩, rfl⟩

/-- Rows that all lie on the sheet are written without regard to their numbers. -/
theorem traverse_rowCells {entity : Entity} {rows : List Json} (onSheet : rows.length < rowLimit) :
    traverse (rowCells entity) (rows.zipIdx 1) = traverse (valueCells entity) rows := by
  have plain : ∀ row ∈ rows.zipIdx 1, rowCells entity row = valueCells entity row.1 := by
    rintro ⟨row, index⟩ member
    have bounds := List.mem_zipIdx member
    have withinLimit : index < rowLimit := by omega
    have sameCells : cellAt index = cell := funext (cellAt_of_lt withinLimit)
    rw [rowCells, sameCells]
    rfl
  rw [traverse_congr plain, ← traverse_map, List.zipIdx_map_fst]

theorem render_eq_error_iff {entity : Entity} {rows : List Json}
    (onSheet : rows.length < rowLimit) {error : RenderError} :
    render entity rows = .error error ↔
      ∃ before row after, rows = before ++ row :: after ∧ RowFault entity row error ∧
        ∀ earlier ∈ before, ∀ fault, ¬ RowFault entity earlier fault := by
  have succeeds (row : Json) : (∃ cells, valueCells entity row = .ok cells) ↔
      ∀ fault, ¬ RowFault entity row fault := by
    simp only [← valueCells_eq_error_iff]
    cases valueCells entity row <;> simp
  rw [render, map_eq_error_iff, traverse_rowCells onSheet, traverse_eq_error_iff]
  simp only [valueCells_eq_error_iff, succeeds]

theorem exists_render_eq_error_iff {entity : Entity} {rows : List Json}
    (onSheet : rows.length < rowLimit) :
    (∃ error, render entity rows = .error error) ↔
      ∃ row ∈ rows, ∃ fault, RowFault entity row fault := by
  simp only [render, map_eq_error_iff, traverse_rowCells onSheet, exists_traverse_eq_error_iff,
    valueCells_eq_error_iff]

/-- A row is blamed for being no object only if it is none, on the sheet or beyond. -/
theorem not_isObject_of_rowCells {entity other : Entity} {row : Json × Nat}
    (fails : rowCells entity row = .error (.notARow other)) : ¬ row.1.IsObject := by
  unfold rowCells at fails
  split at fails
  · rename_i error isFault
    exact (rowValues_eq_error_iff.mp isFault).1
  · obtain ⟨before, value, after, _, fault, _⟩ := traverse_eq_error_iff.mp fails
    unfold cellAt at fault
    split at fault
    · exact absurd fault nofun
    · split at fault
      · exact absurd (Except.error.inj fault) nofun
      · exact absurd (cell_eq_error_iff.mp fault).2 nofun

end Sheet

/-- When and how rendering rows as a table fails. -/
structure FailsOnlyForFaults (entity : Entity) (rows : List Json) : Prop where
  json : ∃ text, render entity rows .json = .ok (.text text)
  csv : ∀ error, render entity rows .csv = .error error ↔
    (∃ row ∈ rows, ¬ row.IsObject) ∧ error = .notARow entity
  tsv : ∀ error, render entity rows .tsv = .error error ↔
    (∃ row ∈ rows, ¬ row.IsObject) ∧ error = .notARow entity
  xlsx : (∃ error, render entity rows .xlsx = .error error) ↔
    ∃ row ∈ rows, ∃ fault, Sheet.RowFault entity row fault
  /-- The first row with a fault decides. -/
  firstFault : ∀ error, render entity rows .xlsx = .error error ↔
    ∃ before row after, rows = before ++ row :: after ∧ Sheet.RowFault entity row error ∧
      ∀ earlier ∈ before, ∀ fault, ¬ Sheet.RowFault entity earlier fault

theorem failsOnlyForFaults {entity : Entity} {rows : List Json}
    (onSheet : rows.length < Sheet.rowLimit) : FailsOnlyForFaults entity rows where
  json := ⟨_, rfl⟩
  csv error := by rw [render, map_eq_error_iff, Delimited.render_eq_error_iff]
  tsv error := by rw [render, map_eq_error_iff, Delimited.render_eq_error_iff]
  xlsx := by
    simp only [render, map_eq_error_iff]
    exact Sheet.exists_render_eq_error_iff onSheet
  firstFault error := by
    rw [render, map_eq_error_iff]
    exact Sheet.render_eq_error_iff onSheet

theorem Entity.isObject_row (entity : Entity) (record : entity.Record) :
    (entity.row record).IsObject := trivial

theorem Sheet.exists_rowFault_row_iff {entity : Entity} {record : entity.Record} :
    (∃ fault, RowFault entity (entity.row record) fault) ↔
      ∃ value ∈ entity.cells record, IsTooLong value := by
  rw [← entity.columnValues_row record, exists_tooLong_columnValues_iff]
  constructor
  · rintro ⟨fault, notObject | ⟨isColumn, found, tooLong⟩⟩
    · exact absurd (entity.isObject_row record) notObject
    · exact ⟨_, isColumn, _, found, tooLong⟩
  · rintro ⟨column, isColumn, value, found, tooLong⟩
    exact ⟨_, .textTooLong isColumn found tooLong⟩

section Records

variable {entity : Entity} (records : List entity.Record)

theorem render_rows_ne_notARow (other : Entity) (format : Format) :
    render entity (records.map (entity.row ·)) format ≠ .error (.notARow other) := by
  have objects : ¬ ∃ row ∈ records.map (entity.row ·), ¬ row.IsObject := by
    simp [Entity.isObject_row]
  intro fails
  cases format with
  | json => contradiction
  | csv => exact objects (Delimited.render_eq_error_iff.mp (map_eq_error_iff.mp fails)).1
  | tsv => exact objects (Delimited.render_eq_error_iff.mp (map_eq_error_iff.mp fails)).1
  | xlsx =>
      rw [render, map_eq_error_iff, Sheet.render, map_eq_error_iff] at fails
      obtain ⟨before, row, after, split, fault, _⟩ := traverse_eq_error_iff.mp fails
      have isRow : row.1 ∈ records.map (entity.row ·) := by
        have member : row ∈ (records.map (entity.row ·)).zipIdx 1 := by simp [split]
        exact List.fst_mem_of_mem_zipIdx member
      exact objects ⟨row.1, isRow, Sheet.not_isObject_of_rowCells fault⟩

theorem exists_render_rows_eq_ok {format : Format} (isText : format ≠ .xlsx) :
    ∃ document, render entity (records.map (entity.row ·)) format = .ok document := by
  cases format with
  | json => exact ⟨_, rfl⟩
  | csv => exact ⟨_, by rw [render, Delimited.render_rows]; rfl⟩
  | tsv => exact ⟨_, by rw [render, Delimited.render_rows]; rfl⟩
  | xlsx => exact absurd rfl isText

end Records

/-- Rows that lie on a sheet are rendered unless they have a fault. Tables of records are always
rendered as text, and as a spreadsheet unless one of their cells is too long. -/
theorem rendering_fails_only_for_faults :
    (∀ (entity : Entity) (rows : List Json), rows.length < Sheet.rowLimit →
      FailsOnlyForFaults entity rows) ∧
    ∀ (entity : Entity) (records : List entity.Record),
      (∀ format other, RenderedTable.ofRecords entity records format ≠ .error (.notARow other)) ∧
      (∀ format, format ≠ .xlsx →
        ∃ table, RenderedTable.ofRecords entity records format = .ok table) ∧
      (records.length < Sheet.rowLimit →
        ((∃ error, RenderedTable.ofRecords entity records .xlsx = .error error) ↔
          ∃ record ∈ records, ∃ value ∈ entity.cells record, Sheet.IsTooLong value)) := by
  refine ⟨fun entity rows => failsOnlyForFaults, fun entity records => ⟨?_, ?_, ?_⟩⟩
  · intro format other fails
    exact render_rows_ne_notARow records other format (map_eq_error_iff.mp fails)
  · intro format isText
    obtain ⟨document, rendered⟩ := exists_render_rows_eq_ok records isText
    exact ⟨_, by rw [RenderedTable.ofRecords, rendered]; rfl⟩
  · intro few
    have onSheet : (records.map (entity.row ·)).length < Sheet.rowLimit := by
      rwa [List.length_map]
    simp only [RenderedTable.ofRecords, map_eq_error_iff, (failsOnlyForFaults onSheet).xlsx,
      List.mem_map, exists_exists_and_eq_and, Sheet.exists_rowFault_row_iff]

theorem Json.length_le_elementCharacters {least : Nat} {elements : List Json}
    (bound : ∀ element ∈ elements, least ≤ element.characters.length) :
    (least + 1) * elements.length ≤ (elementCharacters elements).length + 1 := by
  induction elements with
  | nil => simp
  | cons element others ih =>
      obtain ⟨first, rest⟩ := List.forall_mem_cons.mp bound
      have enough := ih rest
      cases others with
      | nil => simpa [elementCharacters] using first
      | cons next others =>
          simp only [elementCharacters, List.length_append, List.length_cons] at enough ⊢
          rw [mul_add, mul_one]
          omega

/-- However short their names are, each of the related records takes three characters. -/
theorem three_mul_length_lt_labels (related : List Related) :
    3 * related.length < (labels related).compact.length := by
  have quoted : ∀ element ∈ related.map fun record => Json.string record.name,
      2 ≤ element.characters.length := by
    intro element member
    obtain ⟨record, _, rfl⟩ := List.mem_map.mp member
    simp [Json.characters, Json.stringText]
  have bound := Json.length_le_elementCharacters quoted
  rw [List.length_map] at bound
  simp only [labels, Json.compact, Json.characters, String.length_ofList, List.cons_append,
    List.length_cons, List.length_append, List.length_nil]
  omega

def longText : String :=
  String.ofList (List.replicate 32768 'x')

theorem length_longText : longText.length = 32768 :=
  String.length_ofList.trans List.length_replicate

/-- A text that is too long in no column, a text that is too long in one, and no object. -/
def faultyRows : List Json :=
  [.object [("notes", .string longText), ("id", .integer 1)],
    .object [("id", .integer 2), ("name", .string longText)], .string "three"]

/-- The blocks of this toolbox have no names to speak of, but there are many. -/
def wideToolbox : Toolbox :=
  ⟨1, "all", List.replicate 10923 ⟨1, ""⟩⟩

theorem isTooLong_labels_wideToolbox : Sheet.IsTooLong (labels wideToolbox.blocks) := by
  have count : wideToolbox.blocks.length = 10923 := List.length_replicate
  have bound := three_mul_length_lt_labels wideToolbox.blocks
  change 32767 < (labels wideToolbox.blocks).compact.length
  omega

theorem rendering_fails_for_faultyRows :
    faultyRows.length < Sheet.rowLimit ∧
    render .block faultyRows .csv = .error (.notARow .block) ∧
    render .block faultyRows .xlsx = .error .textTooLong ∧
    [wideToolbox].length < Sheet.rowLimit ∧
    (∃ table, RenderedTable.ofRecords .toolbox [wideToolbox] .tsv = .ok table) ∧
    ∃ error, RenderedTable.ofRecords .toolbox [wideToolbox] .xlsx = .error error := by
  have onSheet : faultyRows.length < Sheet.rowLimit := by decide
  have onSheetToo : [wideToolbox].length < Sheet.rowLimit := by decide
  have faults := rendering_fails_only_for_faults.1 .block faultyRows onSheet
  have records := rendering_fails_only_for_faults.2 .toolbox [wideToolbox]
  refine ⟨onSheet, (faults.csv _).mpr ⟨⟨.string "three", by simp [faultyRows], id⟩, rfl⟩,
    (faults.firstFault _).mpr ⟨[_], _, [_], rfl, ?_, ?_⟩, onSheetToo,
    records.2.1 .tsv (by decide), (records.2.2 onSheetToo).mpr ⟨wideToolbox, by simp, _,
      by simp [Entity.cells], isTooLong_labels_wideToolbox⟩⟩
  · have isColumn : "name" ∈ Entity.block.columns := by decide
    refine .textTooLong isColumn rfl ?_
    rw [Sheet.IsTooLong, length_longText, Sheet.textLimit]
    decide
  · intro earlier member fault isFault
    obtain rfl := List.mem_singleton.mp member
    cases isFault with
    | notAnObject notObject => exact notObject trivial
    | textTooLong isColumn found tooLong =>
        simp only [Entity.columns, List.mem_cons, List.not_mem_nil, or_false] at isColumn
        obtain rfl | rfl | rfl := isColumn
        · obtain rfl := Option.some.inj found
          exact tooLong
        · contradiction
        · contradiction

end LearnExport
