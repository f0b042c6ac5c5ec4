import LearnExport.Proofs.Json.Extent
import LearnExport.Proofs.Render.Decoding

/-!
# Text formats tell the same tables apart

The rows of records are written as delimited text and as JSON. A delimited text
is read back as its fields and a JSON text shows where its values end, so either
text is determined by the cells alone. A cell and a JSON value of the same column
show the same differences: a text may be empty only in columns that are never
null, and all values that are no texts are written in a cell as in JSON.
-/

namespace LearnExport

/-- The grid of a row with a value for each key is the row of its values. -/
theorem map_member?_zip {keys : List String} (distinct : keys.Nodup) {values : List Json}
    (sameLength : values.length = keys.length) :
    (keys.map fun key => (Json.member? key (keys.zip values)).getD .null) = values := by
  induction keys generalizing values with
  | nil => exact (List.length_eq_zero_iff.mp sameLength).symm
  | cons key keys ih =>
      obtain ⟨value, others, rfl⟩ := List.exists_cons_of_length_eq_add_one sameLength
      obtain ⟨fresh, distinctOthers⟩ := List.nodup_cons.mp distinct
      have found (other : String) (member : other ∈ keys) :
          Json.member? other ((key, value) :: keys.zip others) =
            Json.member? other (keys.zip others) := by
        have different : other ≠ key := fun same => fresh (same ▸ member)
        simp [Json.member?, List.lookup_cons, beq_eq_false_iff_ne.mpr different]
      rw [List.map_cons, List.zip_cons_cons]
      congr 1
      · simp [Json.member?]
      · exact (List.map_congr_left fun other member => by rw [found other member]).trans
          (ih distinctOthers (by simpa using sameLength))

/-- Values other than strings. -/
def Json.IsPlain (value : Json) : Prop :=
  ∀ text, value ≠ .string text

theorem cellText_of_isPlain {value : Json} (isPlain : value.IsPlain) (notNull : value ≠ .null) :
    cellText value = value.characters := by
  cases value with
  | null => exact absurd rfl notNull
  | string text => exact absurd rfl (isPlain text)
  | bool | integer | double | array | object => rfl

/-- That the cells of two values differ just if their JSON texts do. -/
def ShowAlike (first second : Json) : Prop :=
  cellText first = cellText second ↔ first.characters = second.characters

namespace ShowAlike

variable {first second : Json}

theorem symm (alike : ShowAlike first second) : ShowAlike second first :=
  eq_comm.trans (Iff.trans alike eq_comm)

theorem strings (first second : String) : ShowAlike (.string first) (.string second) := by
  change first.toList = second.toList ↔ Json.stringText first = Json.stringText second
  rw [String.toList_inj, Json.stringText_inj]

/-- Null differs from every value with a cell that is not empty. -/
theorem null (notNull : second ≠ .null) (notEmpty : cellText second ≠ []) :
    ShowAlike .null second := by
  obtain ⟨character, others, written, notN⟩ := Json.exists_characters_eq_cons notNull
  refine iff_of_false (fun same => notEmpty same.symm) fun same => notN ?_
  rw [written] at same
  exact (List.cons.inj same).1.symm

theorem plain (firstPlain : first.IsPlain) (secondPlain : second.IsPlain) :
    ShowAlike first second := by
  have differsFromNull {value : Json} (isPlain : value.IsPlain) (notNull : value ≠ .null) :
      ShowAlike .null value := by
    refine null notNull ?_
    rw [cellText_of_isPlain isPlain notNull]
    exact Json.characters_ne_nil value
  by_cases firstNull : first = .null
  · by_cases secondNull : second = .null
    · rw [firstNull, secondNull]
      exact iff_of_true rfl rfl
    · rw [firstNull]
      exact differsFromNull secondPlain secondNull
  · by_cases secondNull : second = .null
    · rw [secondNull]
      exact (differsFromNull firstPlain firstNull).symm
    · rw [ShowAlike, cellText_of_isPlain firstPlain firstNull,
        cellText_of_isPlain secondPlain secondNull]

theorem optional {α : Type} {toJson : α → Json} (isPlain : ∀ value, (toJson value).IsPlain)
    (first second : Option α) :
    ShowAlike (.ofOption toJson first) (.ofOption toJson second) := by
  have optionPlain (value? : Option α) : (Json.ofOption toJson value?).IsPlain := by
    cases value? with
    | none => exact nofun
    | some value => exact isPlain value
  exact plain (optionPlain first) (optionPlain second)

/-- The cell of an instant is not empty, so it is no null. -/
theorem instants (first second : Option Time.Instant) :
    ShowAlike (.ofOption instantValue first) (.ofOption instantValue second) := by
  have differsFromNull (instant : Time.Instant) : ShowAlike .null (instantValue instant) := by
    refine null (by simp [instantValue]) ?_
    simp [instantValue, cellText, Time.Instant.text, Time.Instant.characters]
  cases first with
  | none =>
      cases second with
      | none => exact iff_of_true rfl rfl
      | some instant => exact differsFromNull instant
  | some instant =>
      cases second with
      | none => exact (differsFromNull instant).symm
      | some other => exact strings instant.text other.text

end ShowAlike

theorem isPlain_idValue (id : Int64) : (idValue id).IsPlain := nofun

theorem isPlain_numberValue (number : Int32) : (numberValue number).IsPlain := nofun

theorem isPlain_bool (value : Bool) : (Json.bool value).IsPlain := nofun

theorem isPlain_labels (related : List Related) : (labels related).IsPlain := nofun

theorem isPlain_ofDouble (number : Number.Binary64) : (Json.ofDouble number).IsPlain := by
  unfold Json.ofDouble
  split <;> exact nofun

namespace Entity

/-- In every column of an entity cells and JSON texts show the same
differences. -/
theorem showAlike_cells (entity : Entity) (first second : entity.Record) :
    List.Forall₂ ShowAlike (entity.cells first) (entity.cells second) := by
  have ids (first second : Int64) : ShowAlike (idValue first) (idValue second) :=
    .plain (isPlain_idValue first) (isPlain_idValue second)
  have numbers (first second : Int32) : ShowAlike (numberValue first) (numberValue second) :=
    .plain (isPlain_numberValue first) (isPlain_numberValue second)
  have labelLists (first second : List Related) : ShowAlike (labels first) (labels second) :=
    .plain (isPlain_labels first) (isPlain_labels second)
  cases entity with
  | block => exact .cons (ids _ _) (.cons (.strings _ _) (.cons (numbers _ _) .nil))
  | toolbox => exact .cons (ids _ _) (.cons (.strings _ _) (.cons (labelLists _ _) .nil))
  | level =>
      exact .cons (ids _ _) (.cons (numbers _ _) (.cons (.strings _ _) (.cons (numbers _ _)
        (.cons (.strings _ _) (.cons (labelLists _ _) .nil)))))
  | instruction => exact .cons (ids _ _) (.cons (.strings _ _) .nil)
  | task =>
      exact .cons (ids _ _) (.cons (.strings _ _) (.cons (.strings _ _) (.cons (.strings _ _)
        (.cons (.strings _ _) .nil))))
  | student => exact .cons (ids _ _) (.cons (ids _ _) (.cons (labelLists _ _) .nil))
  | taskSession =>
      exact .cons (ids _ _) (.cons (ids _ _) (.cons (ids _ _)
        (.cons (.plain (isPlain_bool _) (isPlain_bool _))
          (.cons (.strings _ _) (.cons (.instants _ _) .nil)))))
  | programSnapshot =>
      exact .cons (ids _ _) (.cons (ids _ _) (.cons (.strings _ _) (.cons (.strings _ _)
        (.cons (.strings _ _) (.cons (.optional isPlain_bool _ _) .nil)))))
  | action =>
      exact .cons (ids _ _) (.cons (.strings _ _) (.cons (ids _ _)
        (.cons (.optional isPlain_idValue _ _) (.cons (.strings _ _)
          (.cons (.optional isPlain_ofDouble _ _) (.cons (.strings _ _) .nil))))))

theorem nodup_columns (entity : Entity) : entity.columns.Nodup := by
  cases entity <;> decide

theorem columnValues_row (entity : Entity) (record : entity.Record) :
    columnValues entity (entity.columns.zip (entity.cells record)) = entity.cells record :=
  map_member?_zip entity.nodup_columns (entity.length_cells record)

def cellTexts (entity : Entity) (record : entity.Record) : List (List Char) :=
  (entity.cells record).map cellText

/-- Rows have the same JSON text if their cells have the same texts. -/
theorem cellTexts_eq_iff (entity : Entity) (first second : entity.Record) :
    entity.cellTexts first = entity.cellTexts second ↔
      (entity.row first).characters = (entity.row second).characters := by
  rw [row, row, Json.characters_object_inj (entity.length_cells first)
    (entity.length_cells second), cellTexts, cellTexts]
  have alike := entity.showAlike_cells first second
  generalize entity.cells first = cells at alike ⊢
  generalize entity.cells second = others at alike ⊢
  induction alike with
  | nil => exact iff_of_true rfl rfl
  | cons value _ ih =>
      rw [List.map_cons, List.map_cons, List.map_cons, List.map_cons, List.cons.injEq,
        List.cons.injEq]
      exact and_congr value ih

/-- The fields of a delimited table: the names of the columns, then the cells of
each record. -/
def grid (entity : Entity) (records : List entity.Record) : List (List (List Char)) :=
  entity.columns.map String.toList :: records.map entity.cellTexts

theorem two_le_length_of_mem_grid (entity : Entity) (records : List entity.Record)
    (fields : List (List Char)) (member : fields ∈ entity.grid records) : 2 ≤ fields.length := by
  rcases List.mem_cons.mp member with isHeader | isRow
  · rw [isHeader, List.length_map]
    exact entity.two_le_length_columns
  · obtain ⟨record, _, rfl⟩ := List.mem_map.mp isRow
    rw [cellTexts, List.length_map, length_cells]
    exact entity.two_le_length_columns

end Entity

/-- Records are always written as delimited text, and the text is that of their
grid. -/
theorem Delimited.render_rows (delimiter : Char) (entity : Entity)
    (records : List entity.Record) :
    Delimited.render delimiter entity (records.map entity.row) =
      .ok ((entity.grid records).flatMap (record delimiter)) := by
  refine render_map ?_ delimiter records
  intro record
  simp only [rowFields, Entity.row, rowValues, entity.columnValues_row]
  rfl

/-- Two tables of records have the same delimited text if they have the same
grid. -/
theorem Delimited.flatMap_record_grid_inj {delimiter : Char} (isDelimiter : IsDelimiter delimiter)
    {entity : Entity} {first second : List entity.Record} :
    (entity.grid first).flatMap (record delimiter) =
        (entity.grid second).flatMap (record delimiter) ↔
      first.map entity.cellTexts = second.map entity.cellTexts := by
  constructor
  · intro same
    have sameGrid : entity.grid first = entity.grid second := by
      rw [← read_flatMap_record isDelimiter (entity.two_le_length_of_mem_grid first), same,
        read_flatMap_record isDelimiter (entity.two_le_length_of_mem_grid second)]
    exact (List.cons.inj sameGrid).2
  · intro same
    rw [Entity.grid, Entity.grid, same]

/-- Lists have the same images under two functions that tell the same elements
apart. -/
private theorem map_eq_map_iff {α β γ : Type} {f : α → β} {g : α → γ}
    (alike : ∀ first second, f first = f second ↔ g first = g second) (first second : List α) :
    first.map f = second.map f ↔ first.map g = second.map g := by
  induction first generalizing second with
  | nil => simp
  | cons element others ih =>
      cases second with
      | nil => simp
      | cons other more =>
          rw [List.map_cons, List.map_cons, List.map_cons, List.map_cons, List.cons.injEq,
            List.cons.injEq]
          exact and_congr (alike element other) (ih more)

/-- Tables of records have the same JSON text just if they have the same cells. -/
theorem Json.compact_rows_inj {entity : Entity} {first second : List entity.Record} :
    (Json.array (first.map entity.row)).compact = (Json.array (second.map entity.row)).compact ↔
      first.map entity.cellTexts = second.map entity.cellTexts := by
  rw [compact, compact, String.ofList_inj, characters_array_inj, List.map_map, List.map_map]
  exact (map_eq_map_iff entity.cellTexts_eq_iff first second).symm

/-- Any two lists of records of an entity are rendered as CSV, as TSV and as JSON,
and each of the delimited texts tells them apart just if the JSON text does. -/
theorem delimited_eq_iff_json_eq (entity : Entity) (first second : List entity.Record) :
    ∃ firstCsv secondCsv firstTsv secondTsv firstJson secondJson : String,
      (render entity (first.map entity.row) .csv = .ok (.text firstCsv) ∧
        render entity (second.map entity.row) .csv = .ok (.text secondCsv)) ∧
      (render entity (first.map entity.row) .tsv = .ok (.text firstTsv) ∧
        render entity (second.map entity.row) .tsv = .ok (.text secondTsv)) ∧
      (render entity (first.map entity.row) .json = .ok (.text firstJson) ∧
        render entity (second.map entity.row) .json = .ok (.text secondJson)) ∧
      (firstCsv = secondCsv ↔ firstJson = secondJson) ∧
      (firstTsv = secondTsv ↔ firstJson = secondJson) := by
  have rendered (records : List entity.Record) :
      render entity (records.map entity.row) .csv =
          .ok (.text (String.ofList ((entity.grid records).flatMap (Delimited.record ',')))) ∧
        render entity (records.map entity.row) .tsv =
          .ok (.text (String.ofList ((entity.grid records).flatMap (Delimited.record '\t')))) := by
    constructor <;> simp [render, Delimited.render_rows, Except.map]
  have sameAsJson {delimiter : Char} (isDelimiter : Delimited.IsDelimiter delimiter) :
      String.ofList ((entity.grid first).flatMap (Delimited.record delimiter)) =
          String.ofList ((entity.grid second).flatMap (Delimited.record delimiter)) ↔
        (Json.array (first.map entity.row)).compact =
          (Json.array (second.map entity.row)).compact := by
    rw [String.ofList_inj, Delimited.flatMap_record_grid_inj isDelimiter, Json.compact_rows_inj]
  exact ⟨_, _, _, _, _, _, ⟨(rendered first).1, (rendered second).1⟩,
    ⟨(rendered first).2, (rendered second).2⟩, ⟨rfl, rfl⟩,
    sameAsJson ⟨by decide, by decide, by decide⟩, sameAsJson ⟨by decide, by decide, by decide⟩⟩

end LearnExport
