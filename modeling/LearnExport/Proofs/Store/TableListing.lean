import LearnExport.Proofs.Schema.Consistency
import LearnExport.Proofs.Schema.UniqueKeys
import LearnExport.Proofs.Store.RelationGroups

/-!
# What consistent tables list

A fetch from consistent tables never fails. It lists the rows of the entity's
table that are asked for, each once, joined with the rows it refers to and with
the related records of all its relations, sorted once by the order of the
entity.
-/

namespace LearnExport

open Schema

namespace Schema.Tables

variable {tables : Tables}

def row? (tables : Tables) (table : Table) (key : table.Key) : Option table.Row :=
  (tables.rows table).find? fun row => table.key row == key

theorem Consistent.filter_key (consistent : tables.Consistent) (table : Table)
    (key : table.Key) :
    ((tables.rows table).filter fun row => table.key row == key) =
      (tables.row? table key).toList :=
  filter_key_eq_toList_find? (consistent.keys_nodup table) key

theorem Consistent.row?_eq_some_iff (consistent : tables.Consistent) {table : Table}
    {key : table.Key} {row : table.Row} :
    tables.row? table key = some row ↔ row ∈ tables.rows table ∧ table.key row = key :=
  find?_key_eq_some_iff (consistent.keys_nodup table)

/-- The rows that different keys find have different keys. -/
theorem Consistent.nodup_keys_filterMap_row? (consistent : tables.Consistent) (table : Table)
    {keys : List table.Key} (distinct : keys.Nodup) :
    ((keys.filterMap (tables.row? table)).map table.key).Nodup := by
  refine nodup_map_filterMap id ?_ ?_
  · intro key row found
    exact (consistent.row?_eq_some_iff.mp found).2
  · rw [List.map_id]
    exact distinct

/-- Joining with the one row of a key, or with none, is joining with that row if
it exists. -/
theorem Consistent.flatMap_filter_key (consistent : tables.Consistent) {α β : Type}
    (table : Table) (key : α → table.Key) (join : α → table.Row → β) (rows : List α) :
    (rows.flatMap fun row =>
      ((tables.rows table).filter fun other => table.key other == key row).map (join row)) =
      rows.filterMap fun row => (tables.row? table (key row)).map (join row) := by
  rw [List.filterMap_eq_flatMap_toList]
  congr 1
  funext row
  rw [consistent.filter_key, Option.toList_map]

def joinToolbox (tables : Tables) (row : ToolboxRow) : Toolbox :=
  row.withBlocks (tables.relatedTo .toolboxBlocks row.id)

/-- A level with its toolbox and its tasks. -/
def joinLevel? (tables : Tables) (level : StoredLevel) : Option Level :=
  (tables.row? .toolboxes level.toolboxId).map fun toolbox =>
    level.withRelations toolbox.related (tables.relatedTo .levelTasks level.id)

def joinTask? (tables : Tables) (task : StoredTask) : Option Task :=
  (tables.row? .levels task.levelId).map fun level => task.withLevel level.related

/-- A student with their credits and the instructions they have seen. -/
def joinStudent (tables : Tables) (row : StudentRow) : Student :=
  row.withInstructions (tables.credits row.id) (tables.relatedTo .seenInstructions row.id)

/-- The records of an entity in the order of insertion. -/
def records (tables : Tables) : (entity : Entity) → List entity.Record
  | .block => tables.rows .blocks
  | .toolbox => (tables.rows .toolboxes).map tables.joinToolbox
  | .level => (tables.rows .levels).filterMap tables.joinLevel?
  | .instruction => tables.rows .instructions
  | .task => (tables.rows .tasks).filterMap tables.joinTask?
  | .student => (tables.rows .students).map tables.joinStudent
  | .taskSession => tables.rows .taskSessions
  | .programSnapshot => (tables.rows .programSnapshots).filterMap SnapshotRow.decode?
  | .action => tables.rows .actions

/-- The records of an entity that are asked for, in the order in which they are
listed. -/
def listing (tables : Tables) (entity : Entity) (scope : Scope) : List entity.Record :=
  entity.sorted ((tables.records entity).filter fun record =>
    scope.includes (entity.recordId record))

theorem id_of_joinLevel? {level : StoredLevel} {record : Level}
    (joined : tables.joinLevel? level = some record) : record.id = level.id := by
  obtain ⟨toolbox, _, rfl⟩ := Option.map_eq_some_iff.mp joined
  rfl

theorem rank_of_joinLevel? {level : StoredLevel} {record : Level}
    (joined : tables.joinLevel? level = some record) : record.rank = level.rank := by
  obtain ⟨toolbox, _, rfl⟩ := Option.map_eq_some_iff.mp joined
  rfl

theorem id_of_joinTask? {task : StoredTask} {record : Task}
    (joined : tables.joinTask? task = some record) : record.id = task.id := by
  obtain ⟨level, _, rfl⟩ := Option.map_eq_some_iff.mp joined
  rfl

theorem id_of_decode? {row : SnapshotRow} {record : ProgramSnapshot}
    (decoded : row.decode? = some record) : record.id = row.id := by
  obtain ⟨granularity, _, rfl⟩ := Option.map_eq_some_iff.mp decoded
  rfl

/-- No two records of an entity have the same id. -/
theorem Consistent.nodup_recordIds (consistent : tables.Consistent) (entity : Entity) :
    ((tables.records entity).map entity.recordId).Nodup := by
  cases entity with
  | block => exact consistent.keys_nodup .blocks
  | toolbox =>
      rw [records, List.map_map]
      exact consistent.keys_nodup .toolboxes
  | level =>
      exact nodup_map_filterMap _ (fun _ _ => id_of_joinLevel?) (consistent.keys_nodup .levels)
  | instruction => exact consistent.keys_nodup .instructions
  | task => exact nodup_map_filterMap _ (fun _ _ => id_of_joinTask?) (consistent.keys_nodup .tasks)
  | student =>
      rw [records, List.map_map]
      exact consistent.keys_nodup .students
  | taskSession => exact consistent.keys_nodup .taskSessions
  | programSnapshot =>
      exact nodup_map_filterMap _ (fun _ _ => id_of_decode?)
        (consistent.keys_nodup .programSnapshots)
  | action => exact consistent.keys_nodup .actions

/-- Joining the rows that are asked for gives the joined records that are asked
for. -/
theorem filterMap_within (tables : Tables) (entity : Entity) (scope : Scope) (table : Table)
    (join? : table.Row → Option entity.Record) {id : table.Row → Int64}
    (sameId : ∀ row record, join? row = some record → entity.recordId record = id row) :
    (tables.within scope table id).filterMap join? =
      ((tables.rows table).filterMap join?).filter fun record =>
        scope.includes (entity.recordId record) := by
  refine (filter_filterMap_of_agrees (fun row record joined => ?_) _).symm
  rw [sameId row record joined]

/-- Rows that are chosen and sorted before they are joined are listed like the
joined records. -/
theorem filterMap_sorted_within (tables : Tables) (entity : Entity) (scope : Scope)
    (table : Table) (join? : table.Row → Option entity.Record)
    {id : table.Row → Int64} {rank : table.Row → Rank}
    (sameId : ∀ row record, join? row = some record → entity.recordId record = id row)
    (sameRank : ∀ row record, join? row = some record → entity.rank record = rank row) :
    (sortedByRank rank (tables.within scope table id)).filterMap join? =
      entity.sorted (((tables.rows table).filterMap join?).filter fun record =>
        scope.includes (entity.recordId record)) := by
  rw [← filterMap_within tables entity scope table join? sameId]
  exact filterMap_sortedByRank entity.rank sameRank _

theorem map_sorted_within (tables : Tables) (entity : Entity) (scope : Scope)
    (table : Table) (join : table.Row → entity.Record)
    {id : table.Row → Int64} {rank : table.Row → Rank}
    (sameId : ∀ row, entity.recordId (join row) = id row)
    (sameRank : ∀ row, entity.rank (join row) = rank row) :
    (sortedByRank rank (tables.within scope table id)).map join =
      entity.sorted (((tables.rows table).map join).filter fun record =>
        scope.includes (entity.recordId record)) := by
  rw [← congrFun List.filterMap_eq_map, ← congrFun List.filterMap_eq_map]
  apply filterMap_sorted_within
  · intro row record joined
    rw [← Option.some.inj joined]
    exact sameId row
  · intro row record joined
    rw [← Option.some.inj joined]
    exact sameRank row

theorem nodup_sorted_within (table : Table) {id : table.Row → Int64} (rank : table.Row → Rank)
    (scope : Scope) (distinct : ((tables.rows table).map id).Nodup) :
    ((sortedByRank rank (tables.within scope table id)).map id).Nodup := by
  have chosen : ((tables.within scope table id).map id).Nodup :=
    distinct.sublist (List.filter_sublist.map id)
  exact ((sortedByRank_perm rank _).map id).nodup_iff.mpr chosen

/-- The rules about the values of a snapshot leave it no unknown granularity. -/
theorem Consistent.decode?_eq_some (consistent : tables.Consistent) {row : SnapshotRow}
    (member : row ∈ tables.rows .programSnapshots) : ∃ snapshot, row.decode? = some snapshot := by
  have noneBroken := List.find?_eq_none.mp (consistent.checks_hold .programSnapshots member)
  have known := noneBroken .granularity (by simp)
  simp only [Check.holds, Bool.not_eq_true', Bool.or_eq_false_iff, beq_eq_false_iff_ne,
    not_and_or, not_not] at known
  rcases known with isExecution | isEdit
  · simp [SnapshotRow.decode?, Granularity.ofName?, isExecution]
  · simp [SnapshotRow.decode?, Granularity.ofName?, isEdit]

def withToolbox? (tables : Tables) (level : StoredLevel) : Option (StoredLevel × ToolboxRow) :=
  (tables.row? .toolboxes level.toolboxId).map fun toolbox => (level, toolbox)

theorem fst_of_withToolbox? {level : StoredLevel} {pair : StoredLevel × ToolboxRow}
    (joined : tables.withToolbox? level = some pair) : pair.1 = level := by
  obtain ⟨toolbox, _, rfl⟩ := Option.map_eq_some_iff.mp joined
  rfl

theorem Consistent.levelsWithToolboxes_eq (consistent : tables.Consistent) (scope : Scope) :
    tables.levelsWithToolboxes scope =
      (sortedByRank StoredLevel.rank (tables.within scope .levels (·.id))).filterMap
        tables.withToolbox? := by
  rw [filterMap_sortedByRank (fun pair : StoredLevel × ToolboxRow => pair.1.rank) (by
    intro level pair joined
    rw [fst_of_withToolbox? joined])]
  exact congrArg _ (consistent.flatMap_filter_key .toolboxes StoredLevel.toolboxId Prod.mk _)

theorem Consistent.nodup_levelsWithToolboxes (consistent : tables.Consistent) (scope : Scope) :
    ((tables.levelsWithToolboxes scope).map (·.1.id)).Nodup := by
  rw [consistent.levelsWithToolboxes_eq]
  refine nodup_map_filterMap _ (fun level pair joined => ?_)
    (tables.nodup_sorted_within .levels _ scope (consistent.keys_nodup .levels))
  rw [fst_of_withToolbox? joined]

theorem Consistent.tasksWithLevels_eq (consistent : tables.Consistent) (scope : Scope) :
    tables.tasksWithLevels scope =
      Entity.task.sorted ((tables.within scope .tasks (·.id)).filterMap tables.joinTask?) :=
  congrArg Entity.task.sorted (consistent.flatMap_filter_key .levels StoredTask.levelId
    (fun task level => task.withLevel level.related) _)

end Schema.Tables

namespace Database

variable {tables : Tables}

/-- A query for records is answered by a database that answers all it can. -/
theorem answer_records {α : Type} (tables : Tables) (entity : Entity) (scope : Scope) (value : α) :
    (ofTables tables).answer (.records entity scope) value = .ok value :=
  answer_ofTables (by simp [Query.text?]) tables value

/-- Completing records with the groups that were read for them gives each what
it is related to. -/
private theorem distribute_groupsOf {α β : Type} {id : α → Int64} {records : List α}
    (distinct : (records.map id).Nodup) (relation : Relation)
    (complete : α → List Related → β) :
    (tables.groupsOf relation (records.map id)).distribute id complete records =
      records.map fun record => complete record (tables.relatedTo relation (id record)) := by
  rw [RelatedGroups.distribute_eq_map distinct]
  apply List.map_congr_left
  intro record member
  rw [tables.getD_groupsOf relation (List.mem_map_of_mem member)]

/-- Records that are read by one query are completed by the related records of
others. -/
private theorem fetch_related {α β : Type} {id : α → Int64} {rows : List α}
    (distinct : (rows.map id).Nodup) (entity : Entity) (scope : Scope)
    (loading : RelationLoading) (relation : Relation) (complete : α → List Related → β) :
    (do
      let read ← (ofTables tables).answer (.records entity scope) rows
      let groups ← (ofTables tables).related loading relation (read.map id)
      return groups.distribute id complete read) =
      (.ok (rows.map fun row => complete row (tables.relatedTo relation (id row))) :
        Except StoreError (List β)) := by
  rw [answer_records]
  change (do
    let groups ← (ofTables tables).related loading relation (rows.map id)
    return groups.distribute id complete rows) = _
  rw [related_ofTables]
  exact congrArg Except.ok (distribute_groupsOf distinct relation complete)

/-- Snapshots whose granularities are known are all read. -/
private theorem traverse_decodeSnapshot {rows : List SnapshotRow}
    (decodes : ∀ row ∈ rows, ∃ snapshot, row.decode? = some snapshot) :
    traverse decodeSnapshot rows = .ok (rows.filterMap SnapshotRow.decode?) := by
  induction rows with
  | nil => rfl
  | cons row others ih =>
      obtain ⟨snapshot, decoded⟩ := decodes row List.mem_cons_self
      have othersDecode := ih fun other member => decodes other (List.mem_cons_of_mem row member)
      simp [traverse, decodeSnapshot, decoded, othersDecode, Except.map]

/-- A fetch from consistent tables succeeds and lists the joined rows that are
asked for, in whatever way the relations are read. -/
theorem fetch_ofTables (consistent : tables.Consistent) (loading : RelationLoading)
    (entity : Entity) (scope : Scope) :
    (ofTables tables).fetch loading entity scope = .ok (tables.listing entity scope) := by
  cases entity with
  | block => exact answer_records tables .block scope _
  | toolbox =>
      have distinct := tables.nodup_sorted_within .toolboxes (fun row => idRank row.id) scope
        (consistent.keys_nodup .toolboxes)
      refine (fetch_related distinct .toolbox scope loading .toolboxBlocks
        ToolboxRow.withBlocks).trans (congrArg Except.ok ?_)
      exact tables.map_sorted_within .toolbox scope .toolboxes tables.joinToolbox (fun _ => rfl)
        fun _ => rfl
  | level =>
      -- Levels are read with their toolboxes, as pairs with the id and the rank of the level.
      have distinct := consistent.nodup_levelsWithToolboxes scope
      refine (fetch_related distinct .level scope loading .levelTasks
        fun row tasks => row.1.withRelations row.2.related tasks).trans (congrArg Except.ok ?_)
      rw [consistent.levelsWithToolboxes_eq, List.map_filterMap]
      refine Eq.trans ?_ (tables.filterMap_sorted_within .level scope .levels tables.joinLevel?
        (fun _ _ => Tables.id_of_joinLevel?) fun _ _ => Tables.rank_of_joinLevel?)
      congr 1
      funext level
      rw [Tables.withToolbox?, Tables.joinLevel?, Option.map_map]
      rfl
  | instruction => exact answer_records tables .instruction scope _
  | task =>
      refine (answer_records tables .task scope _).trans (congrArg Except.ok ?_)
      refine (consistent.tasksWithLevels_eq scope).trans (congrArg Entity.task.sorted ?_)
      exact tables.filterMap_within .task scope .tasks tables.joinTask?
        fun _ _ => Tables.id_of_joinTask?
  | student =>
      have distinct := tables.nodup_sorted_within .students (fun row => idRank row.id) scope
        (consistent.keys_nodup .students)
      refine (fetch_related distinct .student scope loading .seenInstructions
        fun row seen => row.withInstructions (tables.credits row.id) seen).trans
        (congrArg Except.ok ?_)
      exact tables.map_sorted_within .student scope .students tables.joinStudent (fun _ => rfl)
        fun _ => rfl
  | taskSession => exact answer_records tables .taskSession scope _
  | programSnapshot =>
      have decodes : ∀ row ∈ sortedByRank (fun row : SnapshotRow => idRank row.id)
          (tables.within scope .programSnapshots (·.id)),
          ∃ snapshot, row.decode? = some snapshot := by
        intro row member
        exact consistent.decode?_eq_some
          (List.mem_filter.mp ((sortedByRank_perm _ _).mem_iff.mp member)).1
      have sorted := tables.filterMap_sorted_within .programSnapshot scope .programSnapshots
        SnapshotRow.decode? (fun _ _ => Tables.id_of_decode?)
        fun _ _ decoded => congrArg idRank (Tables.id_of_decode? decoded)
      rw [fetch, answer_records]
      exact (traverse_decodeSnapshot decodes).trans (congrArg Except.ok sorted)
  | action => exact answer_records tables .action scope _

end Database

end LearnExport
