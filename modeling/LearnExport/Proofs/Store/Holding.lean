import LearnExport.Proofs.Store.MemoryListing
import LearnExport.Proofs.Store.TableListing
import Mathlib.Data.List.Sort

/-!
# A memory that holds the rows of the tables

A memory may hold the rows of the tables in any order, each toolbox with the ids
of its blocks and each student with the ids of the instructions they have seen.
It then joins the same records as the tables do: references find the same rows
because keys are unique, and sums and sorted lists do not depend on the order of
what goes into them.
-/

namespace LearnExport

open Schema

def EnteredToolbox.row (toolbox : EnteredToolbox) : ToolboxRow where
  id := toolbox.id
  name := toolbox.name

def EnteredStudent.row (student : EnteredStudent) : StudentRow where
  id := student.id

def ProgramSnapshot.row (snapshot : ProgramSnapshot) : SnapshotRow where
  id := snapshot.id
  taskSessionId := snapshot.taskSessionId
  time := snapshot.time
  program := snapshot.program
  granularity := snapshot.granularity.name
  correct := snapshot.correct

theorem ProgramSnapshot.decode?_row (snapshot : ProgramSnapshot) :
    snapshot.row.decode? = some snapshot := by
  simp [SnapshotRow.decode?, row]

namespace Schema.Tables

def blockIds (tables : Tables) (toolboxId : Int64) : List Int64 :=
  ((tables.rows .toolboxBlocks).filter fun row => row.toolboxId == toolboxId).map (·.blockId)

def seenIds (tables : Tables) (studentId : Int64) : List Int64 :=
  ((tables.rows .seenInstructions).filter fun row => row.studentId == studentId).map
    (·.instructionId)

variable {tables : Tables}

theorem Consistent.nodup_blockIds (consistent : tables.Consistent) (toolboxId : Int64) :
    (tables.blockIds toolboxId).Nodup :=
  nodup_map_filter_fst (consistent.keys_nodup .toolboxBlocks) toolboxId

theorem Consistent.nodup_seenIds (consistent : tables.Consistent) (studentId : Int64) :
    (tables.seenIds studentId).Nodup :=
  nodup_map_filter_fst (consistent.keys_nodup .seenInstructions) studentId

theorem Consistent.relatedTo_toolboxBlocks (consistent : tables.Consistent) (toolboxId : Int64) :
    tables.relatedTo .toolboxBlocks toolboxId =
      (sortedByRank Block.rank ((tables.blockIds toolboxId).filterMap
        (tables.row? .blocks))).map Block.related := by
  have joined := consistent.flatMap_filter_key .blocks Membership.blockId (fun _ block => block)
    ((tables.rows .toolboxBlocks).filter fun row => row.toolboxId == toolboxId)
  simp only [List.map_id_fun', id_eq, Option.map_id_fun'] at joined
  rw [relatedTo, blockIds, List.filterMap_map]
  exact congrArg (fun blocks => (sortedByRank Block.rank blocks).map Block.related) joined

theorem Consistent.relatedTo_seenInstructions (consistent : tables.Consistent)
    (studentId : Int64) :
    tables.relatedTo .seenInstructions studentId =
      sortedByRank Related.rank (((tables.seenIds studentId).filterMap
        (tables.row? .instructions)).map Instruction.related) := by
  have joined := consistent.flatMap_filter_key .instructions Sighting.instructionId
    (fun _ instruction => Instruction.related instruction)
    ((tables.rows .seenInstructions).filter fun row => row.studentId == studentId)
  rw [relatedTo, seenIds, List.filterMap_map, List.map_filterMap]
  exact congrArg (sortedByRank Related.rank) joined

/-- The credits of a student are those of the levels found for their solved
tasks. -/
theorem Consistent.credits_eq (consistent : tables.Consistent) (studentId : Int64) :
    tables.credits studentId =
      totalCredits (((tables.rows .tasks).filter fun task =>
        (((tables.rows .taskSessions).filter fun session =>
          session.studentId == studentId && session.solved).map (·.taskId)).contains
            task.id).filterMap fun task => tables.row? .levels task.levelId) := by
  have joined := consistent.flatMap_filter_key .levels StoredTask.levelId (fun _ level => level)
    ((tables.rows .tasks).filter fun task =>
      (((tables.rows .taskSessions).filter fun session =>
        session.studentId == studentId && session.solved).map (·.taskId)).contains task.id)
  simp only [List.map_id_fun', id_eq, Option.map_id_fun'] at joined
  exact congrArg totalCredits joined

end Schema.Tables

/-- That a memory holds the rows of the tables, in any order, and the owners of
the active tokens. -/
structure Memory.Holds (memory : Memory) (tables : Tables) : Prop where
  blocks : memory.blocks.Perm (tables.rows .blocks)
  toolboxes : (memory.toolboxes.map EnteredToolbox.row).Perm (tables.rows .toolboxes)
  blockIds (toolbox : EnteredToolbox) (member : toolbox ∈ memory.toolboxes) :
    toolbox.blockIds.Perm (tables.blockIds toolbox.id)
  levels : memory.levels.Perm (tables.rows .levels)
  instructions : memory.instructions.Perm (tables.rows .instructions)
  tasks : memory.tasks.Perm (tables.rows .tasks)
  students : (memory.students.map EnteredStudent.row).Perm (tables.rows .students)
  seenIds (student : EnteredStudent) (member : student ∈ memory.students) :
    student.seenIds.Perm (tables.seenIds student.id)
  taskSessions : memory.taskSessions.Perm (tables.rows .taskSessions)
  programSnapshots :
    (memory.programSnapshots.map ProgramSnapshot.row).Perm (tables.rows .programSnapshots)
  actions : memory.actions.Perm (tables.rows .actions)
  tokens (token : String) (owner : Principal) :
    memory.principal? token = some owner ↔
      ∃ row ∈ tables.rows .tokens, row.key = token ∧ row.isActive = true ∧
        row.username = owner.username ∧ row.isSuperuser = owner.isSuperuser ∧
        ∀ codename, codename ∈ owner.permissions.toList ↔
          (⟨token, codename⟩ : Grant) ∈ tables.rows .tokenPermissions

/-- Sets with the same members are equal. -/
theorem Permissions.eq_of_mem_iff {first second : Permissions}
    (sameMembers : ∀ codename, codename ∈ first.toList ↔ codename ∈ second.toList) :
    first = second := by
  have sameList : first.toList = second.toList :=
    first.ascending.eq_of_mem_iff second.ascending fun {codename} => sameMembers codename
  cases first
  cases second
  cases sameList
  rfl

namespace Schema.Tables

/-- The owner of a token, with the permissions that the tables grant. -/
def ownerOf (tables : Tables) (row : TokenRow) : Principal where
  username := row.username
  isSuperuser := row.isSuperuser
  permissions := .ofList (((tables.rows .tokenPermissions).filter fun grant =>
    grant.key == row.key).map (·.codename))

theorem mem_permissions_ownerOf {tables : Tables} {row : TokenRow} {codename : String} :
    codename ∈ (tables.ownerOf row).permissions.toList ↔
      (⟨row.key, codename⟩ : Grant) ∈ tables.rows .tokenPermissions := by
  rw [ownerOf, Permissions.mem_ofList, List.mem_map]
  constructor
  · rintro ⟨grant, isGrant, rfl⟩
    obtain ⟨member, isToken⟩ := List.mem_filter.mp isGrant
    rw [← beq_iff_eq.mp isToken]
    exact member
  · intro member
    exact ⟨⟨row.key, codename⟩, List.mem_filter.mpr ⟨member, beq_self_eq_true row.key⟩, rfl⟩

theorem ownerOf_eq_iff {tables : Tables} {row : TokenRow} {owner : Principal} :
    tables.ownerOf row = owner ↔
      row.username = owner.username ∧ row.isSuperuser = owner.isSuperuser ∧
        ∀ codename, codename ∈ owner.permissions.toList ↔
          (⟨row.key, codename⟩ : Grant) ∈ tables.rows .tokenPermissions := by
  constructor
  · rintro rfl
    exact ⟨rfl, rfl, fun _ => mem_permissions_ownerOf⟩
  · obtain ⟨username, isSuperuser, permissions⟩ := owner
    rintro ⟨sameName, sameRole, sameMembers⟩
    have samePermissions : (tables.ownerOf row).permissions = permissions :=
      Permissions.eq_of_mem_iff fun codename =>
        mem_permissions_ownerOf.trans (sameMembers codename).symm
    exact congr (congr (congrArg Principal.mk sameName) sameRole) samePermissions

end Schema.Tables

/-- A memory into which the rows of the tables are entered, table by table. -/
def Memory.ofTables (tables : Tables) : Memory where
  blocks := tables.rows .blocks
  toolboxes := (tables.rows .toolboxes).map fun row => ⟨row.id, row.name, tables.blockIds row.id⟩
  levels := tables.rows .levels
  instructions := tables.rows .instructions
  tasks := tables.rows .tasks
  students := (tables.rows .students).map fun row => ⟨row.id, tables.seenIds row.id⟩
  taskSessions := tables.rows .taskSessions
  programSnapshots := (tables.rows .programSnapshots).filterMap SnapshotRow.decode?
  actions := tables.rows .actions
  tokens := ((tables.rows .tokens).filter (·.isActive)).map fun row =>
    (row.key, tables.ownerOf row)

theorem Schema.SnapshotRow.row_of_decode? {row : SnapshotRow} {snapshot : ProgramSnapshot}
    (decoded : row.decode? = some snapshot) : snapshot.row = row := by
  obtain ⟨granularity, known, rfl⟩ := Option.map_eq_some_iff.mp decoded
  rw [ProgramSnapshot.row, Granularity.name_of_ofName? known]

/-- All consistent tables can be held in memory. -/
theorem Memory.holds_ofTables {tables : Tables} (consistent : tables.Consistent) :
    (ofTables tables).Holds tables where
  blocks := .refl _
  toolboxes := by
    rw [ofTables, List.map_map]
    exact .of_eq (List.map_id' _)
  blockIds toolbox member := by
    obtain ⟨row, _, rfl⟩ := List.mem_map.mp member
    exact .refl _
  levels := .refl _
  instructions := .refl _
  tasks := .refl _
  students := by
    rw [ofTables, List.map_map]
    exact .of_eq (List.map_id' _)
  seenIds student member := by
    obtain ⟨row, _, rfl⟩ := List.mem_map.mp member
    exact .refl _
  taskSessions := .refl _
  programSnapshots := by
    refine .of_eq ?_
    rw [ofTables, List.map_filterMap]
    refine (List.filterMap_congr fun row member => ?_).trans List.filterMap_some
    obtain ⟨snapshot, decoded⟩ := consistent.decode?_eq_some member
    rw [decoded, Option.map_some, SnapshotRow.row_of_decode? decoded]
  actions := .refl _
  tokens token owner := by
    have distinct : (((tables.rows .tokens).filter (·.isActive)).map (·.key)).Nodup :=
      (consistent.keys_nodup .tokens).sublist (List.filter_sublist.map _)
    rw [principal?, ofTables, lookup_map_key, Option.map_eq_some_iff]
    constructor
    · rintro ⟨row, found, isOwner⟩
      obtain ⟨member, isToken⟩ := (find?_key_eq_some_iff distinct).mp found
      obtain ⟨isRow, isActive⟩ := List.mem_filter.mp member
      subst isToken
      exact ⟨row, isRow, rfl, isActive, Tables.ownerOf_eq_iff.mp isOwner⟩
    · rintro ⟨row, isRow, rfl, isActive, isOwner⟩
      exact ⟨row, (find?_key_eq_some_iff distinct).mpr
        ⟨List.mem_filter.mpr ⟨isRow, isActive⟩, rfl⟩, Tables.ownerOf_eq_iff.mpr isOwner⟩

/-- The sum of credits does not depend on the order of the levels. -/
theorem totalCredits_eq_of_perm {first second : List StoredLevel}
    (rearranged : first.Perm second) : totalCredits first = totalCredits second := by
  refine rearranged.foldl_eq' ?_ 0
  intro level _ other _ total
  rw [Int64.add_assoc, Int64.add_comm level.credits.toInt64, ← Int64.add_assoc]

namespace Memory.Holds

variable {memory : Memory} {tables : Tables}

theorem block?_eq (holds : memory.Holds tables) (consistent : tables.Consistent) (id : Int64) :
    memory.block? id = tables.row? .blocks id :=
  find?_key_eq_of_perm holds.blocks (consistent.keys_nodup .blocks) id

theorem level?_eq (holds : memory.Holds tables) (consistent : tables.Consistent) (id : Int64) :
    memory.level? id = tables.row? .levels id :=
  find?_key_eq_of_perm holds.levels (consistent.keys_nodup .levels) id

theorem map_row_toolbox? (holds : memory.Holds tables) (consistent : tables.Consistent)
    (id : Int64) : (memory.toolbox? id).map EnteredToolbox.row = tables.row? .toolboxes id := by
  have found := find?_key_eq_of_perm holds.toolboxes (consistent.keys_nodup .toolboxes) id
  rw [List.find?_map] at found
  exact found

theorem blocksOf_eq (holds : memory.Holds tables) (consistent : tables.Consistent)
    {toolbox : EnteredToolbox} (member : toolbox ∈ memory.toolboxes) :
    memory.blocksOf toolbox = tables.relatedTo .toolboxBlocks toolbox.id := by
  have sameLookup : memory.block? = tables.row? .blocks :=
    funext (holds.block?_eq consistent)
  have distinct := consistent.nodup_keys_filterMap_row? .blocks
    (consistent.nodup_blockIds toolbox.id)
  rw [blocksOf, sameLookup, consistent.relatedTo_toolboxBlocks]
  congr 1
  exact sortedByRank_eq_of_nodup_ids Block.id (fun _ => rfl)
    ((holds.blockIds toolbox member).filterMap _) distinct

theorem tasksOf_eq (holds : memory.Holds tables) (consistent : tables.Consistent)
    (levelId : Int64) : memory.tasksOf levelId = tables.relatedTo .levelTasks levelId := by
  refine sortedByRank_eq_of_nodup_ids Related.id (fun _ => rfl)
    ((holds.tasks.filter _).map StoredTask.related) ?_
  rw [List.map_map]
  exact (consistent.keys_nodup .tasks).sublist (List.filter_sublist.map _)

theorem seenBy_eq (holds : memory.Holds tables) (consistent : tables.Consistent)
    {student : EnteredStudent} (member : student ∈ memory.students) :
    memory.seenBy student = tables.relatedTo .seenInstructions student.id := by
  have sameIds (id : Int64) :
      student.seenIds.contains id = (tables.seenIds student.id).contains id :=
    (holds.seenIds student member).contains_eq
  -- Memory goes through all instructions, the tables through those that were seen.
  have sameInstructions :
      (memory.instructions.filter fun instruction => student.seenIds.contains instruction.id).Perm
        ((tables.seenIds student.id).filterMap (tables.row? .instructions)) := by
    simp only [sameIds]
    exact (holds.instructions.filter _).trans (filterMap_find?_perm_filter
      (consistent.keys_nodup .instructions) (consistent.nodup_seenIds student.id)).symm
  have distinct := consistent.nodup_keys_filterMap_row? .instructions
    (consistent.nodup_seenIds student.id)
  rw [consistent.relatedTo_seenInstructions]
  refine sortedByRank_eq_of_nodup_ids Related.id (fun _ => rfl)
    (sameInstructions.map Instruction.related) ?_
  rw [List.map_map]
  exact distinct

theorem credits_eq (holds : memory.Holds tables) (consistent : tables.Consistent)
    (studentId : Int64) : memory.credits studentId = tables.credits studentId := by
  have sameSolved (taskId : Int64) : (memory.solvedTaskIds studentId).contains taskId =
      (((tables.rows .taskSessions).filter fun session =>
        session.studentId == studentId && session.solved).map (·.taskId)).contains taskId :=
    ((holds.taskSessions.filter _).map _).contains_eq
  rw [credits, consistent.credits_eq]
  simp only [sameSolved, holds.level?_eq consistent]
  exact totalCredits_eq_of_perm ((holds.tasks.filter _).filterMap _)

/-- The memory joins the same records as the tables. -/
theorem records_perm (holds : memory.Holds tables) (consistent : tables.Consistent)
    (entity : Entity) : (memory.records entity).Perm (tables.records entity) := by
  cases entity with
  | block => exact holds.blocks
  | toolbox =>
      have joined : memory.toolboxes.map memory.joinToolbox =
          (memory.toolboxes.map EnteredToolbox.row).map tables.joinToolbox := by
        rw [List.map_map]
        apply List.map_congr_left
        intro toolbox member
        rw [Memory.joinToolbox, holds.blocksOf_eq consistent member]
        rfl
      rw [Memory.records, joined]
      exact holds.toolboxes.map tables.joinToolbox
  | level =>
      have joined (level : StoredLevel) : memory.joinLevel? level = tables.joinLevel? level := by
        rw [Memory.joinLevel?, Tables.joinLevel?, ← holds.map_row_toolbox? consistent,
          Option.map_map, holds.tasksOf_eq consistent]
        rfl
      rw [Memory.records, funext joined]
      exact holds.levels.filterMap tables.joinLevel?
  | instruction => exact holds.instructions
  | task =>
      have joined (task : StoredTask) : memory.joinTask? task = tables.joinTask? task := by
        rw [Memory.joinTask?, holds.level?_eq consistent]
        rfl
      rw [Memory.records, funext joined]
      exact holds.tasks.filterMap tables.joinTask?
  | student =>
      have joined : memory.students.map memory.joinStudent =
          (memory.students.map EnteredStudent.row).map tables.joinStudent := by
        rw [List.map_map]
        apply List.map_congr_left
        intro student member
        rw [Memory.joinStudent, holds.seenBy_eq consistent member, holds.credits_eq consistent]
        rfl
      rw [Memory.records, joined]
      exact holds.students.map tables.joinStudent
  | taskSession => exact holds.taskSessions
  | programSnapshot =>
      have decoded := holds.programSnapshots.filterMap SnapshotRow.decode?
      rw [List.filterMap_map, List.filterMap_congr (fun snapshot _ => snapshot.decode?_row),
        List.filterMap_some] at decoded
      exact decoded
  | action => exact holds.actions

theorem fetch_eq_listing (holds : memory.Holds tables) (consistent : tables.Consistent)
    (entity : Entity) (scope : Scope) :
    memory.fetch entity scope = tables.listing entity scope := by
  rw [memory.fetch_eq_sorted]
  refine sortedByRank_eq_of_nodup_ids entity.recordId entity.rank_id
    ((holds.records_perm consistent entity).filter _) ?_
  exact (consistent.nodup_recordIds entity).sublist (List.filter_sublist.map _)

/-- The memory and the tables have the same labels, if an entity has labels at
all. -/
theorem labels_rel (holds : memory.Holds tables) (consistent : tables.Consistent)
    (entity : Entity) :
    Option.Rel (fun entered rows => entered.Perm rows ∧ (rows.map Related.id).Nodup)
      (memory.labelled? entity) (tables.labels? entity) := by
  cases entity with
  | block =>
      refine .some ⟨holds.blocks.map Block.related, ?_⟩
      rw [List.map_map]
      exact consistent.keys_nodup .blocks
  | toolbox =>
      have entered := holds.toolboxes.map ToolboxRow.related
      rw [List.map_map] at entered
      refine .some ⟨entered, ?_⟩
      rw [List.map_map]
      exact consistent.keys_nodup .toolboxes
  | level =>
      refine .some ⟨holds.levels.map StoredLevel.related, ?_⟩
      rw [List.map_map]
      exact consistent.keys_nodup .levels
  | instruction =>
      refine .some ⟨holds.instructions.map Instruction.related, ?_⟩
      rw [List.map_map]
      exact consistent.keys_nodup .instructions
  | task =>
      refine .some ⟨holds.tasks.map StoredTask.related, ?_⟩
      rw [List.map_map]
      exact consistent.keys_nodup .tasks
  | student | taskSession | programSnapshot | action => exact .none

theorem idsLabelled_eq (holds : memory.Holds tables) (consistent : tables.Consistent)
    (entity : Entity) {label : String} (storable : '\x00' ∉ label.toList) :
    (Database.ofTables tables).idsLabelled entity label = memory.idsLabelled entity label := by
  have sameLabels := holds.labels_rel consistent entity
  have tablesOf : (Database.ofTables tables).tables = tables := rfl
  rw [Database.idsLabelled, Memory.idsLabelled, tablesOf]
  revert sameLabels
  generalize memory.labelled? entity = entered?
  generalize tables.labels? entity = rows?
  intro sameLabels
  cases sameLabels with
  | none => rfl
  | @some entered rows same =>
      obtain ⟨rearranged, distinct⟩ := same
      have sameSorted : sortedByRank Related.rank (entered.filter fun row => row.name == label) =
          sortedByRank Related.rank (rows.filter fun row => row.name == label) :=
        sortedByRank_eq_of_nodup_ids Related.id (fun _ => rfl) (rearranged.filter _)
          (distinct.sublist (List.filter_sublist.map _))
      simp only [sameSorted]
      exact Database.answer_ofTables_of_text rfl storable tables _

theorem principal_eq (holds : memory.Holds tables) {token : String}
    (storable : '\x00' ∉ token.toList) :
    (Database.ofTables tables).principal token = .ok (memory.principal? token) := by
  rw [Database.principal, Database.answer_ofTables_of_text rfl storable]
  have tablesOf : (Database.ofTables tables).tables = tables := rfl
  rw [tablesOf]
  cases found : (tables.rows .tokens).find? fun row => row.key == token && row.isActive with
  | none =>
      cases owned : memory.principal? token with
      | none => rfl
      | some owner =>
          obtain ⟨row, member, isToken, isActive, _⟩ := (holds.tokens token owner).mp owned
          have noRow := List.find?_eq_none.mp found row member
          simp [isToken, isActive] at noRow
  | some row =>
      have isRow := List.find?_some found
      rw [Bool.and_eq_true, beq_iff_eq] at isRow
      obtain ⟨rfl, isActive⟩ := isRow
      rw [Database.answer_ofTables_of_text rfl storable]
      exact congrArg Except.ok (Eq.symm ((holds.tokens row.key (tables.ownerOf row)).mpr
        ⟨row, List.mem_of_find?_eq_some found, rfl, isActive, Tables.ownerOf_eq_iff.mp rfl⟩))

/-- What a memory holds does not depend on the numbers that the tables have given
out. -/
theorem of_rows_eq {remaining : Tables} (holds : memory.Holds tables)
    (same : remaining.rows = tables.rows) : memory.Holds remaining := by
  cases remaining
  cases same
  exact ⟨holds.blocks, holds.toolboxes, holds.blockIds, holds.levels, holds.instructions,
    holds.tasks, holds.students, holds.seenIds, holds.taskSessions, holds.programSnapshots,
    holds.actions, holds.tokens⟩

/-- A memory without a task session holds the rows of the tables without it. -/
theorem eraseTaskSession (holds : memory.Holds tables) (id : Int64) :
    (memory.eraseTaskSession id).Holds (tables.without .taskSessions id) := by
  obtain ⟨sessions, snapshots⟩ := tables.rows_without_taskSession id
  have unchanged (table : Table) (isOther : table ≠ .taskSessions ∧ table ≠ .programSnapshots) :
      (tables.without .taskSessions id).rows table = tables.rows table :=
    tables.rows_without_taskSession_of_ne id isOther.1 isOther.2
  constructor
  case blocks =>
    rw [unchanged .blocks (by decide)]
    exact holds.blocks
  case toolboxes =>
    rw [unchanged .toolboxes (by decide)]
    exact holds.toolboxes
  case levels =>
    rw [unchanged .levels (by decide)]
    exact holds.levels
  case instructions =>
    rw [unchanged .instructions (by decide)]
    exact holds.instructions
  case tasks =>
    rw [unchanged .tasks (by decide)]
    exact holds.tasks
  case students =>
    rw [unchanged .students (by decide)]
    exact holds.students
  case actions =>
    rw [unchanged .actions (by decide)]
    exact holds.actions
  case blockIds =>
    intro toolbox member
    rw [Tables.blockIds, unchanged .toolboxBlocks (by decide)]
    exact holds.blockIds toolbox member
  case seenIds =>
    intro student member
    rw [Tables.seenIds, unchanged .seenInstructions (by decide)]
    exact holds.seenIds student member
  case tokens =>
    intro token owner
    rw [unchanged .tokens (by decide), unchanged .tokenPermissions (by decide)]
    exact holds.tokens token owner
  case taskSessions =>
    rw [sessions]
    exact holds.taskSessions.filter _
  case programSnapshots =>
    rw [snapshots]
    have kept := holds.programSnapshots.filter fun row => row.taskSessionId != id
    rw [List.filter_map] at kept
    exact kept

end Memory.Holds

end LearnExport
