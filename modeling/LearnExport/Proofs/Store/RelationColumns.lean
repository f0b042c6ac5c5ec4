import LearnExport.Proofs.Store.Agreement
import LearnExport.Proofs.Store.Entries

/-!
# Relations seen from both sides

A toolbox is listed with its blocks, a student with the instructions they have seen, a
level with its tasks. These are the records that the listings of blocks, instructions
and tasks show, chosen from them in their order; and as each task names its level, the
tasks of all levels are the listed tasks, each one once and under the level it names.
-/

namespace LearnExport

open Schema

def Task.related (task : Task) : Related :=
  ⟨task.id, task.name⟩

def Level.related (level : Level) : Related :=
  ⟨level.id, level.name⟩

/-- That the relations in the listings of a store agree with the listings of what is
related, where two relations say which toolbox has which block and which student has
seen which instruction. -/
structure RelationsAgree (listed : (entity : Entity) → List entity.Record)
    (hasBlock hasSeen : Int64 → Int64 → Bool) : Prop where
  toolbox_blocks : ∀ toolbox ∈ listed .toolbox, toolbox.blocks =
    ((listed .block).filter fun block => hasBlock toolbox.id block.id).map Block.related
  student_instructions : ∀ student ∈ listed .student, student.seenInstructions =
    ((listed .instruction).filter fun instruction => hasSeen student.id instruction.id).map
      Instruction.related
  level_tasks : ∀ level ∈ listed .level, level.tasks =
    ((listed .task).filter fun task => task.level == level.related).map Task.related
  tasks_perm : ((listed .level).flatMap (·.tasks)).Perm ((listed .task).map Task.related)
  /-- Each task is shown under the level in its own row. -/
  levels_perm : ((listed .level).flatMap fun level =>
      level.tasks.map fun task => (level.related, task)).Perm
    ((listed .task).map fun task => (task.level, task.related))
  taskIds_nodup : ((listed .task).map (·.id)).Nodup

namespace Memory

variable {memory : Memory}

def hasBlock (memory : Memory) (toolboxId blockId : Int64) : Bool :=
  memory.toolboxes.any fun toolbox =>
    toolbox.id == toolboxId && toolbox.blockIds.contains blockId

def hasSeen (memory : Memory) (studentId instructionId : Int64) : Bool :=
  memory.students.any fun student =>
    student.id == studentId && student.seenIds.contains instructionId

/-- That ids are unique, no toolbox names a block twice, and every level and every task
refers to something that exists. -/
structure Orderly (memory : Memory) : Prop where
  uniqueIds : memory.UniqueIds
  blockIds_nodup : ∀ toolbox ∈ memory.toolboxes, toolbox.blockIds.Nodup
  hasToolbox : ∀ level ∈ memory.levels,
    ∃ toolbox ∈ memory.toolboxes, toolbox.id = level.toolboxId
  hasLevel : ∀ task ∈ memory.tasks, ∃ level ∈ memory.levels, level.id = task.levelId

theorem fetch_all (memory : Memory) (entity : Entity) :
    memory.fetch entity .all = entity.sorted (memory.records entity) := by
  rw [fetch_eq_sorted, Scope.filter_all]

theorem mem_fetch_all {entity : Entity} {record : entity.Record} :
    record ∈ memory.fetch entity .all ↔
      ∃ entered ∈ memory.entered entity, memory.join? entity entered = some record := by
  rw [fetch_all, Entity.sorted, (sortedByRank_perm entity.rank _).mem_iff, records_eq_filterMap,
    List.mem_filterMap]

namespace Orderly

variable (orderly : memory.Orderly)
include orderly

theorem toolbox_blocks {toolbox : Toolbox} (isListed : toolbox ∈ memory.fetch .toolbox .all) :
    toolbox.blocks = ((memory.fetch .block .all).filter fun block =>
      memory.hasBlock toolbox.id block.id).map Block.related := by
  obtain ⟨entered, isEntered, joined⟩ := mem_fetch_all.mp isListed
  obtain rfl : memory.joinToolbox entered = toolbox := Option.some.inj joined
  have isMember (block : Block) :
      memory.hasBlock entered.id block.id = entered.blockIds.contains block.id :=
    any_key_eq (orderly.uniqueIds .toolbox) isEntered fun other => other.blockIds.contains block.id
  have found : (entered.blockIds.filterMap memory.block?).Perm
      (memory.blocks.filter fun block => entered.blockIds.contains block.id) :=
    filterMap_find?_perm_filter (orderly.uniqueIds .block)
      (orderly.blockIds_nodup entered isEntered)
  change (sortedByRank Block.rank (entered.blockIds.filterMap memory.block?)).map Block.related =
    ((memory.fetch .block .all).filter fun block =>
      memory.hasBlock entered.id block.id).map Block.related
  simp only [isMember]
  rw [fetch_all]
  congr 1
  refine Eq.trans ?_ (filter_sortedByRank Block.rank _ memory.blocks).symm
  exact sortedByRank_eq_of_nodup_ids Block.id (fun _ => rfl) found
    ((orderly.uniqueIds .block).sublist (List.filter_sublist.map _))

theorem student_instructions {student : Student}
    (isListed : student ∈ memory.fetch .student .all) :
    student.seenInstructions = ((memory.fetch .instruction .all).filter fun instruction =>
      memory.hasSeen student.id instruction.id).map Instruction.related := by
  obtain ⟨entered, isEntered, joined⟩ := mem_fetch_all.mp isListed
  obtain rfl : memory.joinStudent entered = student := Option.some.inj joined
  have wasSeen (instruction : Instruction) :
      memory.hasSeen entered.id instruction.id = entered.seenIds.contains instruction.id :=
    any_key_eq (orderly.uniqueIds .student) isEntered fun other =>
      other.seenIds.contains instruction.id
  change memory.seenBy entered = ((memory.fetch .instruction .all).filter fun instruction =>
    memory.hasSeen entered.id instruction.id).map Instruction.related
  simp only [wasSeen]
  rw [fetch_all, seenBy, ← map_sortedByRank Related.rank (fun _ => rfl)]
  congr 1
  exact (filter_sortedByRank Entity.instruction.rank _ memory.instructions).symm

theorem level?_eq_some_iff {id : Int64} {level : StoredLevel} :
    memory.level? id = some level ↔ level ∈ memory.levels ∧ level.id = id :=
  find?_key_eq_some_iff (orderly.uniqueIds .level)

/-- A level is named by a task exactly if the task refers to its id. -/
theorem level_eq_related_iff {level : StoredLevel} (isLevel : level ∈ memory.levels)
    {task : StoredTask} {record : Task} (joined : memory.joinTask? task = some record) :
    (record.level == level.related) = (task.levelId == level.id) := by
  obtain ⟨found, isFound, rfl⟩ := Option.map_eq_some_iff.mp joined
  obtain ⟨isOther, isId⟩ := orderly.level?_eq_some_iff.mp isFound
  rw [Bool.eq_iff_iff, beq_iff_eq, beq_iff_eq, ← isId]
  constructor
  · intro same
    exact congrArg Related.id same
  · intro sameId
    rw [List.inj_on_of_nodup_map (orderly.uniqueIds .level) isOther isLevel sameId]
    rfl

/-- The tasks of a level are the listed tasks that name it. -/
theorem tasksOf_eq {level : StoredLevel} (isLevel : level ∈ memory.levels) :
    memory.tasksOf level.id = ((memory.fetch .task .all).filter fun task =>
      task.level == level.related).map Task.related := by
  have chosen : ((memory.records .task).filter fun task => task.level == level.related) =
      (memory.tasks.filter fun task => task.levelId == level.id).filterMap memory.joinTask? :=
    filter_filterMap_of_agrees (fun _ _ => orderly.level_eq_related_iff isLevel) memory.tasks
  have joined : (memory.tasks.filter fun task => task.levelId == level.id).map
        StoredTask.related =
      ((memory.records .task).filter fun task => task.level == level.related).map
        Task.related := by
    rw [chosen, List.map_filterMap, ← congrFun List.filterMap_eq_map]
    refine List.filterMap_congr fun task member => ?_
    have refers : level.id = task.levelId :=
      (beq_iff_eq.mp (List.mem_filter.mp member).2).symm
    rw [joinTask?, orderly.level?_eq_some_iff.mpr ⟨isLevel, refers⟩]
    rfl
  rw [tasksOf, joined, fetch_all, Entity.sorted, filter_sortedByRank]
  exact (map_sortedByRank Related.rank (fun _ => rfl) _).symm

theorem level_tasks {level : Level} (isListed : level ∈ memory.fetch .level .all) :
    level.tasks = ((memory.fetch .task .all).filter fun task =>
      task.level == level.related).map Task.related := by
  obtain ⟨entered, isEntered, joined⟩ := mem_fetch_all.mp isListed
  obtain ⟨toolbox, _, rfl⟩ := Option.map_eq_some_iff.mp joined
  exact orderly.tasksOf_eq isEntered

/-- Every task names a level that is listed. -/
theorem level_mem_of_task {task : Task} (isListed : task ∈ memory.fetch .task .all) :
    task.level ∈ (memory.fetch .level .all).map Level.related := by
  obtain ⟨entered, _, joined⟩ := mem_fetch_all.mp isListed
  obtain ⟨level, isFound, rfl⟩ := Option.map_eq_some_iff.mp joined
  have isLevel := (orderly.level?_eq_some_iff.mp isFound).1
  obtain ⟨toolbox, isToolbox, isId⟩ := orderly.hasToolbox level isLevel
  have found : memory.toolbox? level.toolboxId = some toolbox :=
    (find?_key_eq_some_iff (orderly.uniqueIds .toolbox)).mpr ⟨isToolbox, isId⟩
  refine List.mem_map.mpr ⟨level.withRelations toolbox.related (memory.tasksOf level.id), ?_, rfl⟩
  refine mem_fetch_all.mpr ⟨level, isLevel, ?_⟩
  rw [join?, joinLevel?, found]
  rfl

theorem nodup_fetch_all (entity : Entity) :
    ((memory.fetch entity .all).map entity.recordId).Nodup := by
  rw [fetch_all]
  exact ((sortedByRank_perm entity.rank _).map entity.recordId).nodup_iff.mpr
    (orderly.uniqueIds.nodup_recordIds entity)

theorem levels_perm :
    ((memory.fetch .level .all).flatMap fun level =>
        level.tasks.map fun task => (level.related, task)).Perm
      ((memory.fetch .task .all).map fun task => (task.level, task.related)) := by
  have distinct : ((memory.fetch .level .all).map Level.related).Nodup := by
    refine List.Nodup.of_map Related.id ?_
    rw [List.map_map]
    exact orderly.nodup_fetch_all .level
  -- A level shows the tasks that name it, so each pair is that of a task with its own level.
  have underLevel : ((memory.fetch .level .all).flatMap fun level =>
        level.tasks.map fun task => (level.related, task)) =
      (((memory.fetch .level .all).map Level.related).flatMap fun level =>
        (memory.fetch .task .all).filter fun task => task.level == level).map
          fun task => (task.level, task.related) := by
    rw [List.map_flatMap, List.flatMap_map]
    refine List.flatMap_congr fun level isListed => ?_
    rw [orderly.level_tasks isListed, List.map_map]
    refine List.map_congr_left fun task member => ?_
    rw [beq_iff_eq.mp (List.mem_filter.mp member).2]
    rfl
  rw [underLevel]
  exact (flatMap_filter_key_perm distinct fun _ => orderly.level_mem_of_task).map _

theorem relationsAgree :
    RelationsAgree (fun entity => memory.fetch entity .all) memory.hasBlock memory.hasSeen where
  toolbox_blocks _ := orderly.toolbox_blocks
  student_instructions _ := orderly.student_instructions
  level_tasks _ := orderly.level_tasks
  tasks_perm := by
    have rearranged := orderly.levels_perm.map Prod.snd
    simpa [List.map_flatMap, Function.comp_def] using rearranged
  levels_perm := orderly.levels_perm
  taskIds_nodup := orderly.nodup_fetch_all .task

end Orderly

end Memory

namespace Schema.Tables

variable {tables : Tables}

def hasBlock (tables : Tables) (toolboxId blockId : Int64) : Bool :=
  (tables.rows .toolboxBlocks).contains ⟨toolboxId, blockId⟩

def hasSeen (tables : Tables) (studentId instructionId : Int64) : Bool :=
  (tables.rows .seenInstructions).contains ⟨studentId, instructionId⟩

theorem mem_blockIds {toolboxId blockId : Int64} :
    blockId ∈ tables.blockIds toolboxId ↔
      (⟨toolboxId, blockId⟩ : Membership) ∈ tables.rows .toolboxBlocks := by
  simp only [blockIds, List.mem_map, List.mem_filter, beq_iff_eq]
  constructor
  · rintro ⟨⟨_, _⟩, ⟨member, rfl⟩, rfl⟩
    exact member
  · intro member
    exact ⟨_, ⟨member, rfl⟩, rfl⟩

theorem mem_seenIds {studentId instructionId : Int64} :
    instructionId ∈ tables.seenIds studentId ↔
      (⟨studentId, instructionId⟩ : Sighting) ∈ tables.rows .seenInstructions := by
  simp only [seenIds, List.mem_map, List.mem_filter, beq_iff_eq]
  constructor
  · rintro ⟨⟨_, _⟩, ⟨member, rfl⟩, rfl⟩
    exact member
  · intro member
    exact ⟨_, ⟨member, rfl⟩, rfl⟩

namespace Consistent

variable (consistent : tables.Consistent)
include consistent

theorem hasBlock_ofTables : (Memory.ofTables tables).hasBlock = tables.hasBlock := by
  funext toolboxId blockId
  rw [Bool.eq_iff_iff, Memory.hasBlock, hasBlock, List.any_eq_true, List.contains_iff_mem]
  simp only [Bool.and_eq_true, beq_iff_eq, List.contains_iff_mem]
  constructor
  · rintro ⟨toolbox, isToolbox, rfl, hasBlock⟩
    obtain ⟨row, _, rfl⟩ := List.mem_map.mp isToolbox
    exact mem_blockIds.mp hasBlock
  · intro member
    obtain ⟨row, isRow, isId⟩ :=
      hasKey_iff.mp (consistent.references_exist .membershipToolbox member rfl)
    obtain rfl : row.id = toolboxId := isId
    exact ⟨_, List.mem_map_of_mem isRow, rfl, mem_blockIds.mpr member⟩

theorem hasSeen_ofTables : (Memory.ofTables tables).hasSeen = tables.hasSeen := by
  funext studentId instructionId
  rw [Bool.eq_iff_iff, Memory.hasSeen, hasSeen, List.any_eq_true, List.contains_iff_mem]
  simp only [Bool.and_eq_true, beq_iff_eq, List.contains_iff_mem]
  constructor
  · rintro ⟨student, isStudent, rfl, hasSeen⟩
    obtain ⟨row, _, rfl⟩ := List.mem_map.mp isStudent
    exact mem_seenIds.mp hasSeen
  · intro member
    obtain ⟨row, isRow, isId⟩ :=
      hasKey_iff.mp (consistent.references_exist .sightingStudent member rfl)
    obtain rfl : row.id = studentId := isId
    exact ⟨_, List.mem_map_of_mem isRow, rfl, mem_seenIds.mpr member⟩

/-- What consistent tables hold is orderly when it is kept in memory. -/
theorem orderly_ofTables : (Memory.ofTables tables).Orderly where
  uniqueIds entity := by
    cases entity with
    | block => exact consistent.keys_nodup .blocks
    | toolbox =>
        rw [Memory.entered, Memory.ofTables, List.map_map]
        exact consistent.keys_nodup .toolboxes
    | level => exact consistent.keys_nodup .levels
    | instruction => exact consistent.keys_nodup .instructions
    | task => exact consistent.keys_nodup .tasks
    | student =>
        rw [Memory.entered, Memory.ofTables, List.map_map]
        exact consistent.keys_nodup .students
    | taskSession => exact consistent.keys_nodup .taskSessions
    | programSnapshot =>
        exact nodup_map_filterMap _ (fun _ _ => id_of_decode?)
          (consistent.keys_nodup .programSnapshots)
    | action => exact consistent.keys_nodup .actions
  blockIds_nodup toolbox member := by
    obtain ⟨row, _, rfl⟩ := List.mem_map.mp member
    exact consistent.nodup_blockIds row.id
  hasToolbox level isLevel := by
    obtain ⟨row, isRow, isId⟩ :=
      hasKey_iff.mp (consistent.references_exist .levelToolbox isLevel rfl)
    exact ⟨_, List.mem_map_of_mem isRow, isId⟩
  hasLevel task isTask :=
    hasKey_iff.mp (consistent.references_exist .taskLevel isTask rfl)

end Consistent

end Schema.Tables

/-- In an orderly memory and in all tables that insertions and deletions lead to, the
relations that are listed agree with the listings of what is related. -/
theorem relations_agree_with_listings :
    (∀ memory : Memory, memory.Orderly →
      ∃ listed : (entity : Entity) → List entity.Record,
        (∀ entity, memory.toStore.fetch entity .all = .ok (listed entity)) ∧
          RelationsAgree listed memory.hasBlock memory.hasSeen) ∧
    ∀ (tables : Tables) (loading : RelationLoading), tables.Reachable →
      ∃ listed : (entity : Entity) → List entity.Record,
        (∀ entity, ((Database.ofTables tables).toStore loading).fetch entity .all =
          .ok (listed entity)) ∧
          RelationsAgree listed tables.hasBlock tables.hasSeen := by
  constructor
  · intro memory orderly
    exact ⟨_, fun _ => rfl, orderly.relationsAgree⟩
  · intro tables loading reachable
    have consistent := reachable.consistent
    have agree := consistent.orderly_ofTables.relationsAgree
    rw [consistent.hasBlock_ofTables, consistent.hasSeen_ofTables] at agree
    refine ⟨_, fun entity => ?_, agree⟩
    refine (Database.fetch_ofTables consistent loading entity .all).trans ?_
    rw [(Memory.holds_ofTables consistent).fetch_eq_listing consistent]

/-- The course in memory and in tables is such a case. -/
theorem relations_agree_of_course :
    courseMemory.Orderly ∧
    (∃ listed : (entity : Entity) → List entity.Record,
      (∀ entity, courseMemory.toStore.fetch entity .all = .ok (listed entity)) ∧
        RelationsAgree listed courseMemory.hasBlock courseMemory.hasSeen) ∧
    ∃ listed : (entity : Entity) → List entity.Record,
      (∀ entity, ((Database.ofTables courseTables).toStore .batched).fetch entity .all =
        .ok (listed entity)) ∧
        RelationsAgree listed courseTables.hasBlock courseTables.hasSeen := by
  have orderly : courseMemory.Orderly := by
    refine ⟨fun entity => ?_, by decide, by decide, by decide⟩
    cases entity <;> decide
  exact ⟨orderly, relations_agree_with_listings.1 courseMemory orderly,
    relations_agree_with_listings.2 courseTables .batched reachable_courseTables⟩

end LearnExport
