import LearnExport.Proofs.Number.NearestDouble
import LearnExport.Proofs.Render.Formats

/-!
# Spreadsheets show the grid of the delimited text

A sheet is written cell by cell, and a blank cell or a blank row still takes its
place. So the cell of a row in a column is found where the delimited text has the
field of this row in this column, and shows the same text unless the value is a
boolean or a number. A number is rounded to a nearest double: an integer of more
than 53 bits that does not end in zeros is not the one that the delimited text
shows.
-/

namespace LearnExport

def Json.IsNumber : Json → Prop
  | .integer _ | .double _ => True
  | _ => False

theorem cellText_eq_nil_iff {value : Json} :
    cellText value = [] ↔ value = .null ∨ value = .string "" := by
  cases value with
  | null => simp [cellText]
  | string text => simp [cellText]
  | bool | integer | double | array | object => simp [cellText, Json.characters_ne_nil]

theorem Delimited.getElem?_objectRecords {entity : Entity} {rows : List (List (String × Json))}
    {row column : Nat} {members : List (String × Json)} {name : String}
    (isRow : rows[row]? = some members) (isName : entity.columns[column]? = some name) :
    (objectRecords entity rows)[row + 1]?.bind (·[column]?) = some (shownText members name) := by
  simp [objectRecords, isRow, isName]

namespace Sheet

/-- That a cell shows a value, whose text is given as well. -/
structure Cell.Shows (cell : Cell) (value : Json) (text : List Char) : Prop where
  blank : cell = .blank ↔ text = []
  bool : ∀ truth, cell = .bool truth ↔ value = .bool truth
  number : (∃ double, cell = .number double) ↔ value.IsNumber
  double : ∀ double, value = .double double → cell = .number double
  /-- Of the nearest doubles, if there are two, either would do. -/
  integer : ∀ number : Int, value = .integer number → number.natAbs < 2 ^ 64 →
    ∃ double, cell = .number double ∧ double.IsNearest number
  text : cell = .blank ∨ (∃ truth, cell = .bool truth) ∨ (∃ double, cell = .number double) ∨
    cell = .text (String.ofList text)

variable {cell : Cell} {value : Json}

/-- The number of the row decides only whether a cell can be written. -/
theorem cell_of_cellAt {row : Nat} (written : cellAt row value = .ok cell) :
    Sheet.cell value = .ok cell := by
  unfold cellAt at written
  split at written
  · rename_i empty
    obtain rfl | rfl := cellText_eq_nil_iff.mp (List.isEmpty_iff.mp empty)
    · exact written
    · exact written
  · split at written
    · contradiction
    · exact written

theorem textCell_eq_ok {text : List Char} (written : textCell text = .ok cell) :
    text = [] ∧ cell = .blank ∨ text ≠ [] ∧ cell = .text (String.ofList text) := by
  unfold textCell at written
  split at written
  · rename_i empty
    exact .inl ⟨List.isEmpty_iff.mp empty, (Except.ok.inj written).symm⟩
  · rename_i notEmpty
    split at written
    · contradiction
    · exact .inr ⟨fun empty => notEmpty (List.isEmpty_iff.mpr empty),
        (Except.ok.inj written).symm⟩

/-- A text is shown by a text cell, unless it is empty. -/
theorem shows_of_textCell {text : List Char} (notBool : ∀ truth, value ≠ .bool truth)
    (notNumber : ¬ value.IsNumber) (written : textCell text = .ok cell) :
    cell.Shows value text := by
  obtain ⟨isText, isBlank⟩ : (cell = .blank ∨ cell = .text (String.ofList text)) ∧
      (cell = .blank ↔ text = []) := by
    obtain ⟨empty, rfl⟩ | ⟨notEmpty, rfl⟩ := textCell_eq_ok written
    · simp [empty]
    · simp [notEmpty]
  refine
    { blank := isBlank
      bool := fun truth => iff_of_false ?_ (notBool truth)
      number := iff_of_false ?_ notNumber
      double := fun double same => absurd (same ▸ trivial) notNumber
      integer := fun number same => absurd (same ▸ trivial) notNumber
      text := isText.imp_right (.inr ∘ .inr) }
  · obtain rfl | rfl := isText <;> exact nofun
  · obtain rfl | rfl := isText <;> exact nofun

theorem shows_of_cell (written : Sheet.cell value = .ok cell) :
    cell.Shows value (cellText value) := by
  have notEmpty (notNull : value ≠ .null) (notText : ∀ text, value ≠ .string text) :
      cellText value ≠ [] := fun empty =>
    (cellText_eq_nil_iff.mp empty).elim notNull (notText "")
  cases value with
  | null => exact shows_of_textCell nofun id written
  | string | array | object => exact shows_of_textCell nofun id written
  | bool truth =>
      obtain rfl := Except.ok.inj written
      exact
        { blank := iff_of_false nofun (notEmpty nofun nofun)
          bool := fun other => by simp
          number := iff_of_false nofun id
          double := nofun
          integer := nofun
          text := .inr (.inl ⟨truth, rfl⟩) }
  | integer number =>
      obtain rfl := Except.ok.inj written
      exact
        { blank := iff_of_false nofun (notEmpty nofun nofun)
          bool := fun other => iff_of_false nofun nofun
          number := iff_of_true ⟨_, rfl⟩ trivial
          double := nofun
          integer := fun other same bounded => by
            obtain rfl := Json.integer.inj same
            exact ⟨_, rfl, Number.Binary64.isNearest_ofInt (Number.log2_le_of_lt bounded)⟩
          text := .inr (.inr (.inl ⟨_, rfl⟩)) }
  | double number =>
      obtain rfl := Except.ok.inj written
      exact
        { blank := iff_of_false nofun (notEmpty nofun nofun)
          bool := fun other => iff_of_false nofun nofun
          number := iff_of_true ⟨_, rfl⟩ trivial
          double := fun other same => by rw [Json.double.inj same]
          integer := nofun
          text := .inr (.inr (.inl ⟨_, rfl⟩)) }

/-- That a sheet has the rows of a table where a delimited text has its records. -/
structure MatchesGrid (sheet : Sheet) (entity : Entity) (rows : List (List (String × Json)))
    (records : List (List (List Char))) : Prop where
  header : sheet.rows[0]? = some (entity.columns.map .text)
  rowCount : sheet.rows.length = rows.length + 1
  recordCount : records.length = rows.length + 1
  cellCount : ∀ cells ∈ sheet.rows, cells.length = entity.columns.length
  fieldCount : ∀ fields ∈ records, fields.length = entity.columns.length
  cells : ∀ (row column : Nat) (members : List (String × Json)) (name : String),
    rows[row]? = some members → entity.columns[column]? = some name →
      ∃ text cell, records[row + 1]?.bind (·[column]?) = some text ∧
        sheet.rows[row + 1]?.bind (·[column]?) = some cell ∧
        cell.Shows ((Json.member? name members).getD .null) text

theorem matchesGrid_of_render {entity : Entity} {rows : List (List (String × Json))}
    {sheet : Sheet} (rendered : Sheet.render entity (rows.map .object) = .ok sheet) :
    sheet.MatchesGrid entity rows (Delimited.objectRecords entity rows) := by
  obtain ⟨cells, written, rfl⟩ := map_eq_ok_iff.mp rendered
  have row {index : Nat} {members : List (String × Json)} (found : rows[index]? = some members) :
      ∃ values, cells[index]? = some values ∧
        traverse (cellAt (index + 1)) (columnValues entity members) = .ok values := by
    have placed : ((rows.map Json.object).zipIdx 1)[index]? =
        some (.object members, index + 1) := by
      simp [found, Nat.add_comm]
    exact getElem?_of_traverse written placed
  have count : cells.length = rows.length := by
    simpa using length_of_traverse written
  refine
    { header := rfl
      rowCount := congrArg (· + 1) count
      recordCount := by simp [Delimited.objectRecords]
      cellCount := ?_
      fieldCount := fun fields => Delimited.length_of_mem_objectRecords
      cells := ?_ }
  · intro values member
    rcases List.mem_cons.mp member with isHeader | isRow
    · rw [isHeader, Sheet.header, List.length_map]
    · obtain ⟨index, inRange, rfl⟩ := List.mem_iff_getElem.mp isRow
      obtain ⟨values, isRow, written⟩ := row (List.getElem?_eq_getElem (count ▸ inRange))
      obtain rfl := Option.some.inj ((List.getElem?_eq_getElem inRange).symm.trans isRow)
      rw [length_of_traverse written, columnValues, List.length_map]
  · intro index column members name isRow isName
    obtain ⟨values, found, written⟩ := row isRow
    have isValue : (columnValues entity members)[column]? =
        some ((Json.member? name members).getD .null) := by
      simp [columnValues, isName]
    obtain ⟨cell, isCell, written⟩ := getElem?_of_traverse written isValue
    have shows := shows_of_cell (cell_of_cellAt written)
    rw [cellText_getD_member?] at shows
    exact ⟨_, cell, Delimited.getElem?_objectRecords isRow isName, by simp [found, isCell], shows⟩

end Sheet

/-- Rows that are objects are always rendered as CSV, and read back. -/
theorem exists_csv_objectRecords (entity : Entity) (rows : List (List (String × Json))) :
    ∃ csv : String, render entity (rows.map .object) .csv = .ok (.text csv) ∧
      Delimited.read ',' csv.toList = Delimited.objectRecords entity rows := by
  have isComma : Delimited.IsDelimiter ',' := ⟨by decide, by decide, by decide⟩
  refine ⟨String.ofList ((Delimited.objectRecords entity rows).flatMap (Delimited.record ',')),
    ?_, ?_⟩
  · rw [render, Delimited.render_map (Delimited.rowFields_object entity)]
    rfl
  · rw [String.toList_ofList, (Delimited.decodes_objectRecords isComma entity rows).records]
    rfl

theorem render_xlsx_eq_ok {entity : Entity} {rows : List Json} {sheet : Sheet} :
    render entity rows .xlsx = .ok (.sheet sheet) ↔ Sheet.render entity rows = .ok sheet := by
  simp [render, map_eq_ok_iff]

/-- If rows that are objects are rendered as a spreadsheet, then they are also rendered as CSV,
and each cell of the sheet shows what the CSV shows in its place. -/
theorem sheet_matches_csv_grid {entity : Entity} {rows : List (List (String × Json))}
    {sheet : Sheet} (rendered : render entity (rows.map .object) .xlsx = .ok (.sheet sheet)) :
    ∃ csv : String, render entity (rows.map .object) .csv = .ok (.text csv) ∧
      sheet.MatchesGrid entity rows (Delimited.read ',' csv.toList) := by
  obtain ⟨csv, written, decoded⟩ := exists_csv_objectRecords entity rows
  refine ⟨csv, written, ?_⟩
  rw [decoded]
  exact Sheet.matchesGrid_of_render (render_xlsx_eq_ok.mp rendered)

/-- Rows with an empty text, missing columns, members that are no columns and no members at
all. -/
def rowsWithGaps : List (List (String × Json)) :=
  [[("correct", .bool true), ("order", .null), ("program", .string ""),
      ("time", .array [.string "a", .string "b"]), ("id", .integer 3)], [],
    [("granularity", .string "edit")]]

theorem sheet_matches_csv_grid_of_rowsWithGaps :
    ∃ sheet,
      render .programSnapshot (rowsWithGaps.map .object) .xlsx = .ok (.sheet sheet) ∧
      ∃ csv : String,
        render .programSnapshot (rowsWithGaps.map .object) .csv = .ok (.text csv) ∧
        sheet.MatchesGrid .programSnapshot rowsWithGaps (Delimited.read ',' csv.toList) := by
  obtain ⟨sheet, rendered⟩ : ∃ sheet,
      render .programSnapshot (rowsWithGaps.map .object) .xlsx = .ok (.sheet sheet) := ⟨_, rfl⟩
  exact ⟨sheet, rendered, sheet_matches_csv_grid rendered⟩

/-! ### Integers of records -/

/-- That a value is no integer of more than 64 bits. -/
def Json.FitsWord (value : Json) : Prop :=
  ∀ number, value = .integer number → number.natAbs < 2 ^ 64

theorem fitsWord_idValue (id : Int64) : (idValue id).FitsWord := by
  intro number same
  rw [← Json.integer.inj same]
  have least := id.le_toInt
  have greatest := id.toInt_lt
  omega

theorem fitsWord_numberValue (number : Int32) : (numberValue number).FitsWord := by
  intro other same
  rw [← Json.integer.inj same]
  have least := number.le_toInt
  have greatest := number.toInt_lt
  omega

theorem fitsWord_string (text : String) : (Json.string text).FitsWord := nofun

theorem fitsWord_bool (truth : Bool) : (Json.bool truth).FitsWord := nofun

theorem fitsWord_labels (related : List Related) : (labels related).FitsWord := nofun

theorem fitsWord_instantValue (instant : Time.Instant) : (instantValue instant).FitsWord := nofun

theorem fitsWord_ofDouble (number : Number.Binary64) : (Json.ofDouble number).FitsWord := by
  unfold Json.ofDouble
  split <;> exact nofun

theorem fitsWord_ofOption {α : Type} {toJson : α → Json}
    (fits : ∀ value, (toJson value).FitsWord) (value? : Option α) :
    (Json.ofOption toJson value?).FitsWord := by
  cases value? with
  | none => exact nofun
  | some value => exact fits value

theorem Entity.fitsWord_of_mem_cells (entity : Entity) (record : entity.Record) :
    ∀ value ∈ entity.cells record, value.FitsWord := by
  cases entity <;>
    simp [cells, fitsWord_idValue, fitsWord_numberValue, fitsWord_string, fitsWord_bool,
      fitsWord_labels, fitsWord_instantValue, fitsWord_ofDouble, fitsWord_ofOption]

theorem Entity.member?_zip_cells {entity : Entity} {record : entity.Record} {column : Nat}
    {name : String} {value : Json} (isName : entity.columns[column]? = some name)
    (isValue : (entity.cells record)[column]? = some value) :
    (Json.member? name (entity.columns.zip (entity.cells record))).getD .null = value := by
  rw [← entity.columnValues_row, columnValues, List.getElem?_map, isName] at isValue
  exact Option.some.inj isValue

/-- Integers of records stand in a spreadsheet as nearest doubles, which denote the integers that
the CSV shows exactly if these have at most 53 bits but for the zeros they end in. -/
theorem integer_cells_of_records {entity : Entity} {records : List entity.Record} {sheet : Sheet}
    (rendered : render entity (records.map entity.row) .xlsx = .ok (.sheet sheet)) :
    ∃ csv : String, render entity (records.map entity.row) .csv = .ok (.text csv) ∧
      ∀ (row column : Nat) (record : entity.Record) (number : Int),
        records[row]? = some record → (entity.cells record)[column]? = some (.integer number) →
          (Delimited.read ',' csv.toList)[row + 1]?.bind (·[column]?) =
            some (Text.integer number) ∧
          ∃ double, sheet.rows[row + 1]?.bind (·[column]?) = some (.number double) ∧
            double.IsNearest number ∧
            (double.value = number ↔ Number.Binary64.FitsDouble number) := by
  have rows : records.map entity.row =
      (records.map fun record => entity.columns.zip (entity.cells record)).map .object :=
    List.map_map.symm
  rw [rows] at rendered ⊢
  obtain ⟨csv, written, decoded⟩ := exists_csv_objectRecords entity
    (records.map fun record => entity.columns.zip (entity.cells record))
  have grid := Sheet.matchesGrid_of_render (render_xlsx_eq_ok.mp rendered)
  refine ⟨csv, written, fun row column record number isRecord isInteger => ?_⟩
  obtain ⟨name, isName⟩ : ∃ name, entity.columns[column]? = some name := by
    obtain ⟨inRange, _⟩ := List.getElem?_eq_some_iff.mp isInteger
    exact ⟨_, List.getElem?_eq_getElem (entity.length_cells record ▸ inRange)⟩
  have isRow : (records.map fun record => entity.columns.zip (entity.cells record))[row]? =
      some (entity.columns.zip (entity.cells record)) := by
    rw [List.getElem?_map, isRecord, Option.map_some]
  have value := Entity.member?_zip_cells isName isInteger
  obtain ⟨text, cell, isText, isCell, shows⟩ := grid.cells row column _ name isRow isName
  rw [value] at shows
  have bounded := entity.fitsWord_of_mem_cells record _ (List.mem_of_getElem? isInteger) number rfl
  obtain ⟨double, rfl, nearest⟩ := shows.integer number rfl bounded
  refine ⟨?_, double, isCell, nearest, nearest.value_eq_iff (Number.log2_le_of_lt bounded)⟩
  rw [decoded, Delimited.getElem?_objectRecords isRow isName, ← cellText_getD_member?, value]
  rfl

/-- Blocks whose ids are one apart, the second an odd number of 54 bits. -/
def farBlocks : List Block :=
  [⟨9007199254740992, "first", 1⟩, ⟨9007199254740993, "second", 2⟩]

theorem integer_cells_of_farBlocks :
    ∃ (sheet : Sheet) (csv : String),
      render .block (farBlocks.map Entity.block.row) .xlsx = .ok (.sheet sheet) ∧
      render .block (farBlocks.map Entity.block.row) .csv = .ok (.text csv) ∧
      (Delimited.read ',' csv.toList)[2]?.bind (·[0]?) = some (Text.integer 9007199254740993) ∧
      ∃ double, sheet.rows[2]?.bind (·[0]?) = some (.number double) ∧
        double.IsNearest ((9007199254740993 : ℤ) : ℚ) ∧
        (double.value = ((9007199254740993 : ℤ) : ℚ) ↔
          Number.Binary64.FitsDouble 9007199254740993) := by
  obtain ⟨sheet, rendered⟩ :
      ∃ sheet, render .block (farBlocks.map Entity.block.row) .xlsx = .ok (.sheet sheet) := ⟨_, rfl⟩
  obtain ⟨csv, written, cells⟩ := integer_cells_of_records rendered
  exact ⟨sheet, csv, rendered, written, cells 1 0 _ 9007199254740993 rfl rfl⟩

/-- The spreadsheet shows both ids as the same number, which is not the second id. -/
theorem sheet_merges_farBlocks :
    ∃ sheet : Sheet, ∃ double : Number.Binary64,
      render .block (farBlocks.map Entity.block.row) .xlsx = .ok (.sheet sheet) ∧
      sheet.rows[1]?.bind (·[0]?) = some (.number double) ∧
      sheet.rows[2]?.bind (·[0]?) = some (.number double) ∧
      double.value ≠ ((9007199254740993 : ℤ) : ℚ) :=
  ⟨_, .ofInt 9007199254740993, rfl, by decide, by decide, by decide +kernel⟩

end LearnExport
