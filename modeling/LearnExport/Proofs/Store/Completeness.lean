import LearnExport.Proofs.Schema.History
import LearnExport.Proofs.Store.Agreement

/-!
# Whole tables

A listing shows the whole table of its entity: joining a row with the rows it refers to
neither loses nor repeats it, and every granularity that is stored has a known name. As no
two ids are equal, the order of a listing is strict. A judgement is stored for executions
alone, so none is withheld when snapshots are exported.
-/

namespace LearnExport

open Schema

namespace Entity

/-- The table that has a row for each record of the entity. -/
abbrev table : Entity → Table
  | block => .blocks
  | toolbox => .toolboxes
  | level => .levels
  | instruction => .instructions
  | task => .tasks
  | student => .students
  | taskSession => .taskSessions
  | programSnapshot => .programSnapshots
  | action => .actions

/-- What a record shows of its own row. -/
def storedRow : (entity : Entity) → entity.Record → entity.table.Row
  | block, record => record
  | toolbox, record => ⟨record.id, record.name⟩
  | level, record => ⟨record.id, record.level, record.name, record.credits, record.toolbox.id⟩
  | instruction, record => record
  | task, record => ⟨record.id, record.name, record.level.id, record.setting, record.solution⟩
  | student, record => ⟨record.id⟩
  | taskSession, record => record
  | programSnapshot, record => record.row
  | action, record => record

/-- The strict order of a listing: by order for blocks and by number for levels, then by
id. -/
def ListedBefore : (entity : Entity) → entity.Record → entity.Record → Prop
  | block, first, second =>
      first.order < second.order ∨ first.order = second.order ∧ first.id < second.id
  | level, first, second =>
      first.level < second.level ∨ first.level = second.level ∧ first.id < second.id
  | toolbox, first, second => first.id < second.id
  | instruction, first, second => first.id < second.id
  | task, first, second => first.id < second.id
  | student, first, second => first.id < second.id
  | taskSession, first, second => first.id < second.id
  | programSnapshot, first, second => first.id < second.id
  | action, first, second => first.id < second.id

end Entity

/-- Between records with different ids, the order of ranks is strict. -/
private theorem lt_of_precedes {firstPlace secondPlace : Int} {first second : Int64}
    (before : (Rank.mk firstPlace first.toInt).precedes ⟨secondPlace, second.toInt⟩ = true)
    (different : first ≠ second) :
    firstPlace < secondPlace ∨ firstPlace = secondPlace ∧ first < second := by
  have differentInt : first.toInt ≠ second.toInt := mt Int64.toInt_inj.mp different
  rw [Int64.lt_iff_toInt_lt]
  simp only [Rank.precedes, Bool.or_eq_true, Bool.and_eq_true, decide_eq_true_eq,
    beq_iff_eq] at before
  omega

private theorem place_and_id_lt_of_precedes {firstPlace secondPlace : Int32}
    {first second : Int64}
    (before : (Rank.mk firstPlace.toInt first.toInt).precedes
      ⟨secondPlace.toInt, second.toInt⟩ = true) (different : first ≠ second) :
    firstPlace < secondPlace ∨ firstPlace = secondPlace ∧ first < second := by
  rw [Int32.lt_iff_toInt_lt, ← Int32.toInt_inj]
  exact lt_of_precedes before different

private theorem id_lt_of_precedes {first second : Int64}
    (before : (idRank first).precedes (idRank second) = true) (different : first ≠ second) :
    first < second := by
  rcases lt_of_precedes before different with isLess | ⟨_, isLess⟩
  · exact absurd isLess (lt_irrefl 0)
  · exact isLess

/-- What precedes another record with another id is listed before it. -/
theorem Entity.listedBefore_of_precedes {entity : Entity} {first second : entity.Record}
    (before : (entity.rank first).precedes (entity.rank second) = true)
    (different : entity.recordId first ≠ entity.recordId second) :
    entity.ListedBefore first second := by
  cases entity with
  | block => exact place_and_id_lt_of_precedes before different
  | level => exact place_and_id_lt_of_precedes before different
  | toolbox => exact id_lt_of_precedes before different
  | instruction => exact id_lt_of_precedes before different
  | task => exact id_lt_of_precedes before different
  | student => exact id_lt_of_precedes before different
  | taskSession => exact id_lt_of_precedes before different
  | programSnapshot => exact id_lt_of_precedes before different
  | action => exact id_lt_of_precedes before different

theorem Entity.pairwise_sorted {entity : Entity} {records : List entity.Record}
    (distinct : (records.map entity.recordId).Nodup) :
    (entity.sorted records).Pairwise entity.ListedBefore := by
  have different : (entity.sorted records).Pairwise fun first second =>
      entity.recordId first ≠ entity.recordId second :=
    List.pairwise_map.mp
      (((sortedByRank_perm entity.rank records).map entity.recordId).nodup_iff.mpr distinct)
  have inOrder := pairwise_sortedByRank entity.rank records
  exact inOrder.imp₂ (fun _ _ => listedBefore_of_precedes) different

/-- The row that is exported if what is stored is shown as it is. -/
def Schema.SnapshotRow.shown (row : SnapshotRow) : Json :=
  .object (Entity.programSnapshot.columns.zip
    [idValue row.id, idValue row.taskSessionId, instantValue row.time, .string row.program,
      .string row.granularity, .ofOption .bool row.correct])

/-- A snapshot whose judgement is not withheld is exported as it is stored. -/
theorem ProgramSnapshot.row_eq_shown {snapshot : ProgramSnapshot}
    (unmasked : snapshot.judgement = snapshot.correct) :
    Entity.programSnapshot.row snapshot = snapshot.row.shown := by
  rw [Entity.row, Entity.cells, unmasked]
  rfl

namespace Schema.Tables

variable {tables : Tables}

private theorem map_filterMap_eq_self {α β : Type} {join? : α → Option β} {strip : β → α}
    {rows : List α} (undone : ∀ row ∈ rows, (join? row).map strip = some row) :
    (rows.filterMap join?).map strip = rows := by
  rw [List.map_filterMap]
  exact (List.filterMap_congr undone).trans List.filterMap_some

namespace Consistent

variable (consistent : tables.Consistent)
include consistent

theorem storedRow_joinLevel? {level : StoredLevel} (isLevel : level ∈ tables.rows .levels) :
    (tables.joinLevel? level).map Entity.level.storedRow = some level := by
  obtain ⟨toolbox, isToolbox, isId⟩ := consistent.exists_row .levelToolbox isLevel rfl
  have found : tables.row? .toolboxes level.toolboxId = some toolbox :=
    consistent.row?_eq_some_iff.mpr ⟨isToolbox, isId⟩
  have sameId : toolbox.id = level.toolboxId := isId
  rw [joinLevel?, found, Option.map_some, Option.map_some, Entity.storedRow]
  simp only [StoredLevel.withRelations, ToolboxRow.related, sameId]

theorem storedRow_joinTask? {task : StoredTask} (isTask : task ∈ tables.rows .tasks) :
    (tables.joinTask? task).map Entity.task.storedRow = some task := by
  obtain ⟨level, isLevel, isId⟩ := consistent.exists_row .taskLevel isTask rfl
  have found : tables.row? .levels task.levelId = some level :=
    consistent.row?_eq_some_iff.mpr ⟨isLevel, isId⟩
  have sameId : level.id = task.levelId := isId
  rw [joinTask?, found, Option.map_some, Option.map_some, Entity.storedRow]
  simp only [StoredTask.withLevel, StoredLevel.related, sameId]

theorem storedRow_decode? {row : SnapshotRow} (isRow : row ∈ tables.rows .programSnapshots) :
    row.decode?.map Entity.programSnapshot.storedRow = some row := by
  obtain ⟨snapshot, decoded⟩ := consistent.decode?_eq_some isRow
  rw [decoded, Option.map_some]
  exact congrArg some (SnapshotRow.row_of_decode? decoded)

/-- There is one record for each row, in the order of insertion. -/
theorem map_storedRow_records (entity : Entity) :
    (tables.records entity).map entity.storedRow = tables.rows entity.table := by
  cases entity with
  | block => exact List.map_id' _
  | toolbox =>
      rw [records, List.map_map]
      exact List.map_id' _
  | level => exact map_filterMap_eq_self fun _ => consistent.storedRow_joinLevel?
  | instruction => exact List.map_id' _
  | task => exact map_filterMap_eq_self fun _ => consistent.storedRow_joinTask?
  | student =>
      rw [records, List.map_map]
      exact List.map_id' _
  | taskSession => exact List.map_id' _
  | programSnapshot => exact map_filterMap_eq_self fun _ => consistent.storedRow_decode?
  | action => exact List.map_id' _

theorem storedRows_perm (entity : Entity) :
    ((tables.listing entity .all).map entity.storedRow).Perm (tables.rows entity.table) := by
  rw [listing, Scope.filter_all, ← consistent.map_storedRow_records entity]
  exact (sortedByRank_perm entity.rank _).map entity.storedRow

theorem pairwise_listing (entity : Entity) :
    (tables.listing entity .all).Pairwise entity.ListedBefore := by
  rw [listing, Scope.filter_all]
  exact Entity.pairwise_sorted (consistent.nodup_recordIds entity)

/-- No snapshot of an edit is stored with a judgement, so leaving it out changes nothing. -/
theorem judgement_eq {snapshot : ProgramSnapshot}
    (isListed : snapshot ∈ tables.listing .programSnapshot .all) :
    snapshot.judgement = snapshot.correct := by
  have isRow : snapshot.row ∈ tables.rows .programSnapshots :=
    (consistent.storedRows_perm .programSnapshot).mem_iff.mp (List.mem_map_of_mem isListed)
  unfold ProgramSnapshot.judgement
  cases isEdit : snapshot.granularity with
  | execution => rfl
  | edit =>
      refine (consistent.keepsSchema.judgements snapshot.row isRow ?_).symm
      rw [ProgramSnapshot.row, isEdit, Granularity.name]

theorem shown_perm :
    ((tables.listing .programSnapshot .all).map (Entity.programSnapshot.row ·)).Perm
      ((tables.rows .programSnapshots).map SnapshotRow.shown) := by
  have asStored : (tables.listing .programSnapshot .all).map (Entity.programSnapshot.row ·) =
      ((tables.listing .programSnapshot .all).map ProgramSnapshot.row).map SnapshotRow.shown := by
    rw [List.map_map]
    exact List.map_congr_left fun snapshot isListed =>
      ProgramSnapshot.row_eq_shown (consistent.judgement_eq isListed)
  rw [asStored]
  exact (consistent.storedRows_perm .programSnapshot).map SnapshotRow.shown

end Consistent

end Schema.Tables

/-- Tables that insertions and deletions lead to are listed as a whole: each listing
succeeds, has one record for each row of its table and is strictly sorted. All stored
granularities are known, and snapshots are exported with the judgements that are stored. -/
theorem listings_total_and_complete {tables : Tables} (reachable : tables.Reachable)
    (loading : RelationLoading) :
    (∀ entity, ∃ listed,
      ((Database.ofTables tables).toStore loading).fetch entity .all = .ok listed ∧
        (listed.map entity.storedRow).Perm (tables.rows entity.table) ∧
        listed.Pairwise entity.ListedBefore) ∧
    (∀ row ∈ tables.rows .programSnapshots,
      ∃ granularity, Granularity.ofName? row.granularity = some granularity) ∧
    ∃ snapshots,
      ((Database.ofTables tables).toStore loading).fetch .programSnapshot .all = .ok snapshots ∧
        (∀ snapshot ∈ snapshots, snapshot.judgement = snapshot.correct) ∧
        (snapshots.map (Entity.programSnapshot.row ·)).Perm
          ((tables.rows .programSnapshots).map SnapshotRow.shown) := by
  have consistent := reachable.consistent
  have listed (entity : Entity) :
      ((Database.ofTables tables).toStore loading).fetch entity .all =
        .ok (tables.listing entity .all) :=
    Database.fetch_ofTables consistent loading entity .all
  refine ⟨fun entity => ?_, fun row isRow => ?_, ?_⟩
  · exact ⟨_, listed entity, consistent.storedRows_perm entity,
      consistent.pairwise_listing entity⟩
  · obtain ⟨snapshot, decoded⟩ := consistent.decode?_eq_some isRow
    obtain ⟨granularity, known, _⟩ := Option.map_eq_some_iff.mp decoded
    exact ⟨granularity, known⟩
  · exact ⟨_, listed .programSnapshot, fun _ => consistent.judgement_eq, consistent.shown_perm⟩

/-- The course in tables is such a case. -/
theorem listings_total_and_complete_of_courseTables :
    courseTables.Reachable ∧
    (∀ entity, ∃ listed,
      ((Database.ofTables courseTables).toStore .perRecord).fetch entity .all = .ok listed ∧
        (listed.map entity.storedRow).Perm (courseTables.rows entity.table) ∧
        listed.Pairwise entity.ListedBefore) ∧
    (∀ row ∈ courseTables.rows .programSnapshots,
      ∃ granularity, Granularity.ofName? row.granularity = some granularity) ∧
    ∃ snapshots,
      ((Database.ofTables courseTables).toStore .perRecord).fetch .programSnapshot .all =
          .ok snapshots ∧
        (∀ snapshot ∈ snapshots, snapshot.judgement = snapshot.correct) ∧
        (snapshots.map (Entity.programSnapshot.row ·)).Perm
          ((courseTables.rows .programSnapshots).map SnapshotRow.shown) :=
  ⟨reachable_courseTables, listings_total_and_complete reachable_courseTables .perRecord⟩

end LearnExport
