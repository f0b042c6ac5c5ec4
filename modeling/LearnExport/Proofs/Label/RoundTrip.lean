import LearnExport.Http.Answer
import LearnExport.Label.Input
import LearnExport.Proofs.Label.Course
import LearnExport.Proofs.Store.Agreement

/-!
# Resolving labels undoes the export

The export shows a task with the name of its level and a level with the name of
its toolbox, and whoever enters one gives this name. As names and ids are unique
and no reference is broken, the name leads back to the id that was kept, and what
is entered with it is exported under the name that was given. A resolved name is no
promise that the rest can be entered: tables do not hold every text.
-/

namespace LearnExport

open Schema

/-! ### Rows as inputs -/

theorem Input.number_numberValue (number : Int32) :
    Input.number (numberValue number) = .ok number := by
  have bounds : Int32.minValue.toInt ≤ number.toInt ∧ number.toInt ≤ Int32.maxValue.toInt :=
    ⟨number.minValue_le_toInt, number.toInt_le⟩
  rw [numberValue, Input.number, if_pos bounds, Int32.ofInt_toInt]

/-- The row of a task is an input that names its level. -/
theorem TaskInput.ofJson_row (record : Task) :
    TaskInput.ofJson (Entity.task.row record) =
      .ok ⟨record.name, record.level.name, record.setting, record.solution⟩ := rfl

theorem LevelInput.ofJson_row (record : Level) :
    LevelInput.ofJson (Entity.level.row record) =
      .ok ⟨record.level, record.name, record.credits, record.toolbox.name⟩ := by
  have level := Input.number_numberValue record.level
  have credits := Input.number_numberValue record.credits
  -- The members are checked in their order before they are read.
  change (do
    (do
      discard (Input.number (numberValue record.level))
      (Except.ok () : Except MalformedInput Unit)
      discard (Input.number (numberValue record.credits))
      (Except.ok () : Except MalformedInput Unit))
    let level ← Input.number (numberValue record.level)
    let credits ← Input.number (numberValue record.credits)
    return (⟨level, record.name, credits, record.toolbox.name⟩ : LevelInput)) = _
  rw [level, credits]
  rfl

namespace Course

variable {course : Course}

/-! ### Labels -/

/-- The records of an entity by id and name, if it has labels. -/
def labelled? : Course → Entity → Option (List Related)
  | inMemory memory, entity => memory.labelled? entity
  | inTables tables _, entity => tables.labels? entity

/-- That some records are those of an entity, which their names tell apart. -/
structure Labels (course : Course) (entity : Entity) (related : List Related) : Prop where
  isLabelled : course.labelled? entity = some related
  names_nodup : (related.map (·.name)).Nodup
  canHold : ∀ record ∈ related, course.CanHold record.name

theorem Sound.labels_level (sound : course.Sound) :
    course.Labels .level (course.levels.map StoredLevel.related) where
  isLabelled := by cases course <;> rfl
  names_nodup := by
    rw [List.map_map]
    exact sound.coherent.levelNames
  canHold record member := by
    obtain ⟨level, isLevel, rfl⟩ := List.mem_map.mp member
    cases course with
    | inMemory memory => trivial
    | inTables tables loading => exact Tables.Reachable.isStorable sound isLevel rfl

theorem Sound.labels_toolbox (sound : course.Sound) :
    course.Labels .toolbox course.toolboxes where
  isLabelled := by cases course <;> rfl
  names_nodup := sound.coherent.toolboxNames
  canHold record member := by
    cases course with
    | inMemory memory => trivial
    | inTables tables loading =>
        obtain ⟨toolbox, isToolbox, rfl⟩ := List.mem_map.mp member
        exact Tables.Reachable.isStorable sound isToolbox rfl

namespace Labels

variable {entity : Entity} {related : List Related} (labels : course.Labels entity related)
include labels

/-- A label that can be kept is resolved to the one record with this name. -/
theorem resolveLabel_eq (field : String) {label : String} (canHold : course.CanHold label) :
    resolveLabel course.store field entity label =
      match related.find? fun record => record.name == label with
      | some record => .ok record.id
      | none => .error (.validation field (.unknown label)) := by
  have answered : course.store.idsLabelled entity label =
      .ok ((sortedByRank Related.rank (related.filter fun record => record.name == label)).map
        (·.id)) := by
    have isLabelled := labels.isLabelled
    cases course with
    | inMemory memory =>
        change memory.labelled? entity = some related at isLabelled
        change memory.idsLabelled entity label = _
        rw [Memory.idsLabelled, isLabelled]
    | inTables tables loading =>
        change tables.labels? entity = some related at isLabelled
        have tablesOf : (Database.ofTables tables).tables = tables := rfl
        change (Database.ofTables tables).idsLabelled entity label = _
        rw [Database.idsLabelled, tablesOf, isLabelled]
        exact Database.answer_ofTables_of_text rfl canHold tables _
  rw [resolveLabel, answered, filter_key_eq_toList_find? labels.names_nodup]
  cases related.find? fun record => record.name == label with
  | none => simp [sortedByRank]
  | some record => simp [sortedByRank]

/-- The database does not look for a text that it cannot hold. -/
theorem resolveLabel_of_not_canHold (field : String) {label : String}
    (cannotHold : ¬ course.CanHold label) :
    resolveLabel course.store field entity label =
      .error (.store (.database Database.unstorableText)) := by
  have isLabelled := labels.isLabelled
  cases course with
  | inMemory memory => exact absurd trivial cannotHold
  | inTables tables loading =>
      have unanswered : (Database.ofTables tables).queryFault? (.labelled entity label) =
          some Database.unstorableText := by
        have holdsText : '\x00' ∈ label.toList := not_not.mp cannotHold
        simp [Database.queryFault?, Database.ofTables, Query.text?, holdsText]
      change tables.labels? entity = some related at isLabelled
      have tablesOf : (Database.ofTables tables).tables = tables := rfl
      have asked : (inTables tables loading).store.idsLabelled entity label =
          .error (.database Database.unstorableText) := by
        change (Database.ofTables tables).idsLabelled entity label = _
        rw [Database.idsLabelled, tablesOf, isLabelled]
        simp only [Database.answer, unanswered]
      rw [resolveLabel, asked]

theorem resolveLabel_eq_ok_iff {field label : String} {id : Int64} :
    resolveLabel course.store field entity label = .ok id ↔
      ∃ record ∈ related, record.name = label ∧ record.id = id := by
  by_cases canHold : course.CanHold label
  · have found {record : Related} : (related.find? fun record => record.name == label) =
        some record ↔ record ∈ related ∧ record.name = label :=
      find?_key_eq_some_iff labels.names_nodup
    rw [labels.resolveLabel_eq field canHold]
    cases isFound : related.find? fun record => record.name == label with
    | none =>
        have noneNamed := List.find?_eq_none.mp isFound
        simp only [reduceCtorEq, false_iff]
        rintro ⟨record, member, isName, _⟩
        exact noneNamed record member (beq_iff_eq.mpr isName)
    | some record =>
        obtain ⟨member, isName⟩ := found.mp isFound
        constructor
        · intro sameId
          exact ⟨record, member, isName, Except.ok.inj sameId⟩
        · rintro ⟨other, isRelated, otherName, rfl⟩
          have same := isFound.symm.trans (found.mpr ⟨isRelated, otherName⟩)
          rw [Option.some.inj same]
  · rw [labels.resolveLabel_of_not_canHold field canHold]
    simp only [reduceCtorEq, false_iff]
    rintro ⟨record, member, isName, _⟩
    exact canHold (isName ▸ labels.canHold record member)

theorem resolveLabel_eq_unknown (field : String) {label : String}
    (canHold : course.CanHold label) (unknown : ∀ record ∈ related, record.name ≠ label) :
    resolveLabel course.store field entity label = .error (.validation field (.unknown label)) := by
  have notFound : (related.find? fun record => record.name == label) = none := by
    refine List.find?_eq_none.mpr fun record member => ?_
    rw [beq_iff_eq]
    exact unknown record member
  rw [labels.resolveLabel_eq field canHold, notFound]

/-- No label is ever found to be ambiguous. -/
theorem resolveLabel_ne_ambiguous (field label reported : String) :
    resolveLabel course.store field entity label ≠ .error (.validation reported .ambiguous) := by
  by_cases canHold : course.CanHold label
  · rw [labels.resolveLabel_eq field canHold]
    split <;> simp
  · rw [labels.resolveLabel_of_not_canHold field canHold]
    simp

end Labels

/-! ### Inputs -/

namespace Sound

variable (sound : course.Sound)
include sound

/-- A task is resolved to the id of the level with the name that it gives. -/
theorem resolve_task_eq_ok_iff {input : TaskInput} {resolved : ResolvedTask} :
    input.resolve course.store = .ok resolved ↔
      ∃ level ∈ course.levels, level.name = input.level ∧
        resolved = ⟨input.name, level.id, input.setting, input.solution⟩ := by
  rw [TaskInput.resolve, map_eq_ok_iff]
  simp only [sound.labels_level.resolveLabel_eq_ok_iff]
  constructor
  · rintro ⟨_, ⟨record, member, isName, rfl⟩, rfl⟩
    obtain ⟨level, isLevel, rfl⟩ := List.mem_map.mp member
    exact ⟨level, isLevel, isName, rfl⟩
  · rintro ⟨level, isLevel, isName, rfl⟩
    exact ⟨level.id, ⟨level.related, List.mem_map_of_mem isLevel, isName, rfl⟩, rfl⟩

/-- A level is resolved to the id of the toolbox with the name that it gives. -/
theorem resolve_level_eq_ok_iff {input : LevelInput} {resolved : ResolvedLevel} :
    input.resolve course.store = .ok resolved ↔
      ∃ toolbox ∈ course.toolboxes, toolbox.name = input.toolbox ∧
        resolved = ⟨input.level, input.name, input.credits, toolbox.id⟩ := by
  rw [LevelInput.resolve, map_eq_ok_iff]
  simp only [sound.labels_toolbox.resolveLabel_eq_ok_iff]
  constructor
  · rintro ⟨_, ⟨toolbox, member, isName, rfl⟩, rfl⟩
    exact ⟨toolbox, member, isName, rfl⟩
  · rintro ⟨toolbox, member, isName, rfl⟩
    exact ⟨toolbox.id, ⟨toolbox, member, isName, rfl⟩, rfl⟩

/-- The row of a listed task resolves to the level that is kept for the task. -/
theorem resolve_of_listed_task {record : Task}
    (listed : record ∈ Entity.task.sorted (course.tasks.filterMap course.joinTask?)) :
    ∃ task ∈ course.tasks, task.id = record.id ∧
      ∃ input, TaskInput.ofJson (Entity.task.row record) = .ok input ∧
        input.resolve course.store =
          .ok ⟨task.name, task.levelId, task.setting, task.solution⟩ := by
  have joined := (sortedByRank_perm Entity.task.rank _).mem_iff.mp listed
  obtain ⟨task, isTask, isJoin⟩ := List.mem_filterMap.mp joined
  obtain ⟨level, found, rfl⟩ := Option.map_eq_some_iff.mp isJoin
  obtain ⟨isLevel, isId⟩ := (find?_key_eq_some_iff sound.coherent.levelIds).mp found
  refine ⟨task, isTask, rfl, _, TaskInput.ofJson_row _, ?_⟩
  rw [← isId]
  exact sound.resolve_task_eq_ok_iff.mpr ⟨level, isLevel, rfl, rfl⟩

theorem resolve_of_listed_level {record : Level}
    (listed : record ∈ Entity.level.sorted (course.levels.filterMap course.joinLevel?)) :
    ∃ level ∈ course.levels, level.id = record.id ∧
      ∃ input, LevelInput.ofJson (Entity.level.row record) = .ok input ∧
        input.resolve course.store =
          .ok ⟨level.level, level.name, level.credits, level.toolboxId⟩ := by
  have joined := (sortedByRank_perm Entity.level.rank _).mem_iff.mp listed
  obtain ⟨level, isLevel, isJoin⟩ := List.mem_filterMap.mp joined
  obtain ⟨toolbox, found, rfl⟩ := Option.map_eq_some_iff.mp isJoin
  obtain ⟨isToolbox, isId⟩ := (find?_key_eq_some_iff sound.coherent.toolboxIds).mp found
  refine ⟨level, isLevel, rfl, _, LevelInput.ofJson_row _, ?_⟩
  rw [← isId]
  exact sound.resolve_level_eq_ok_iff.mpr ⟨toolbox, isToolbox, rfl, rfl⟩

/-- A task that is entered after the others is listed among them in its place,
with the level it refers to. -/
theorem fetch_task_of_append {entered : Course} (stillSound : entered.Sound) {task : StoredTask}
    (sameLevels : entered.levels = course.levels) (added : entered.tasks = course.tasks ++ [task])
    {level : StoredLevel} (isLevel : level ∈ course.levels) (isId : level.id = task.levelId) :
    ∃ before after, course.store.fetch .task .all = .ok (before ++ after) ∧
      entered.store.fetch .task .all = .ok (before ++ task.withLevel level.related :: after) := by
  have sameJoin : entered.joinTask? = course.joinTask? := by
    funext other
    rw [joinTask?, joinTask?, sameLevels]
  have joined : course.joinTask? task = some (task.withLevel level.related) := by
    have found := (find?_key_eq_some_iff sound.coherent.levelIds).mpr ⟨isLevel, isId⟩
    rw [joinTask?, found]
    rfl
  have distinct : ((course.tasks.filterMap course.joinTask?).map Entity.task.recordId).Nodup := by
    refine nodup_map_filterMap StoredTask.id (fun other record isJoin => ?_) sound.coherent.taskIds
    obtain ⟨_, _, rfl⟩ := Option.map_eq_some_iff.mp isJoin
    rfl
  obtain ⟨before, after, listed, nowListed⟩ :=
    exists_sortedByRank_append Entity.task.recordId Entity.task.rank_id distinct
      (task.withLevel level.related)
  refine ⟨before, after, ?_, ?_⟩
  · rw [sound.fetch_task, Entity.sorted, listed]
  · rw [stillSound.fetch_task, added, sameJoin, List.filterMap_append,
      List.filterMap_cons_some joined, List.filterMap_nil, Entity.sorted, nowListed]

/-- A level that is entered after the others is listed among them in its place, with
the toolbox it refers to and without tasks. -/
theorem fetch_level_of_append {entered : Course} (stillSound : entered.Sound)
    {level : StoredLevel} (sameToolboxes : entered.toolboxes = course.toolboxes)
    (sameTasks : entered.tasks = course.tasks) (added : entered.levels = course.levels ++ [level])
    (freshId : ∀ other ∈ course.levels, other.id ≠ level.id) {toolbox : Related}
    (isToolbox : toolbox ∈ course.toolboxes) (isId : toolbox.id = level.toolboxId) :
    ∃ before after, course.store.fetch .level .all = .ok (before ++ after) ∧
      entered.store.fetch .level .all =
        .ok (before ++ level.withRelations toolbox [] :: after) := by
  have sameJoin : entered.joinLevel? = course.joinLevel? := by
    funext other
    rw [joinLevel?, joinLevel?, tasksOf, tasksOf, sameToolboxes, sameTasks]
  have noTasks : course.tasksOf level.id = [] := by
    have noneRefers : (course.tasks.filter fun task => task.levelId == level.id) = [] := by
      refine List.filter_eq_nil_iff.mpr fun task isTask refers => ?_
      obtain ⟨other, isLevel, otherId⟩ := sound.coherent.hasLevel task isTask
      exact freshId other isLevel (otherId.trans (beq_iff_eq.mp refers))
    simp [tasksOf, noneRefers, sortedByRank]
  have joined : course.joinLevel? level = some (level.withRelations toolbox []) := by
    have found := (find?_key_eq_some_iff sound.coherent.toolboxIds).mpr ⟨isToolbox, isId⟩
    rw [joinLevel?, found, noTasks]
    rfl
  have distinct :
      ((course.levels.filterMap course.joinLevel?).map Entity.level.recordId).Nodup := by
    refine nodup_map_filterMap StoredLevel.id (fun other record isJoin => ?_)
      sound.coherent.levelIds
    obtain ⟨_, _, rfl⟩ := Option.map_eq_some_iff.mp isJoin
    rfl
  obtain ⟨before, after, listed, nowListed⟩ :=
    exists_sortedByRank_append Entity.level.recordId Entity.level.rank_id distinct
      (level.withRelations toolbox [])
  refine ⟨before, after, ?_, ?_⟩
  · rw [sound.fetch_level, Entity.sorted, listed]
  · rw [stillSound.fetch_level, added, sameJoin, List.filterMap_append,
      List.filterMap_cons_some joined, List.filterMap_nil, Entity.sorted, nowListed]

end Sound

/-- That a course lists the same records of an entity as before and one more, with
a given row. -/
def GainsRow (course entered : Course) (entity : Entity) (row : Json) : Prop :=
  ∃ before added after, course.store.fetch entity .all = .ok (before ++ after) ∧
    entered.store.fetch entity .all = .ok (before ++ added :: after) ∧
    entity.row added = row

theorem not_gainsRow_self (entity : Entity) (row : Json) : ¬ course.GainsRow course entity row := by
  rintro ⟨before, added, after, listed, nowListed, -⟩
  have same := List.append_cancel_left (Except.ok.inj (listed.symm.trans nowListed))
  exact List.cons_ne_self added after same.symm

/-- That labels and ids lead to each other for the levels and tasks of a course. -/
structure RoundTrips (course : Course) : Prop where
  /-- The row of every listed task is an input that resolves to what is kept. -/
  listed_task_resolves : ∃ listed, course.store.fetch .task .all = .ok listed ∧
    ∀ record ∈ listed, ∃ task ∈ course.tasks, task.id = record.id ∧
      ∃ input, TaskInput.ofJson (Entity.task.row record) = .ok input ∧
        input.resolve course.store =
          .ok ⟨task.name, task.levelId, task.setting, task.solution⟩
  listed_level_resolves : ∃ listed, course.store.fetch .level .all = .ok listed ∧
    ∀ record ∈ listed, ∃ level ∈ course.levels, level.id = record.id ∧
      ∃ input, LevelInput.ofJson (Entity.level.row record) = .ok input ∧
        input.resolve course.store =
          .ok ⟨level.level, level.name, level.credits, level.toolboxId⟩
  /-- What a task resolves to is listed, once it is entered, as the input says. Only
  a text that cannot be kept keeps it from being entered. -/
  resolved_task_is_listed (input : TaskInput) (resolved : ResolvedTask)
    (isResolved : input.resolve course.store = .ok resolved) (now : Time.Instant) (id : Int64)
    (fresh : ∀ task ∈ course.tasks, task.id ≠ id ∧ task.name ≠ input.name) :
    let result := course.enterTask now
      ⟨id, resolved.name, resolved.levelId, resolved.setting, resolved.solution⟩
    (result.2 = none →
      course.GainsRow result.1 .task (.object
        [("id", idValue id), ("name", .string input.name), ("level", .string input.level),
          ("setting", .string input.setting), ("solution", .string input.solution)])) ∧
    ((∀ text ∈ [input.name, input.setting, input.solution], course.CanHold text) →
      result.2 = none) ∧
    ((∃ text ∈ [input.name, input.setting, input.solution], ¬ course.CanHold text) →
      result = (course, some .unstorableText))
  resolved_level_is_listed (input : LevelInput) (resolved : ResolvedLevel)
    (isResolved : input.resolve course.store = .ok resolved) (now : Time.Instant) (id : Int64)
    (fresh : ∀ level ∈ course.levels, level.id ≠ id ∧ level.name ≠ input.name) :
    let result := course.enterLevel now
      ⟨id, resolved.level, resolved.name, resolved.credits, resolved.toolboxId⟩
    (result.2 = none →
      course.GainsRow result.1 .level (.object
        [("id", idValue id), ("level", numberValue input.level), ("name", .string input.name),
          ("credits", numberValue input.credits), ("toolbox", .string input.toolbox),
          ("tasks", .array [])])) ∧
    (course.CanHold input.name → result.2 = none) ∧
    (¬ course.CanHold input.name → result = (course, some .unstorableText))
  /-- A label that can be kept resolves exactly if a record has this name. -/
  task_resolves_iff (input : TaskInput) (canHold : course.CanHold input.level) :
    ((∃ resolved, input.resolve course.store = .ok resolved) ↔
      ∃ level ∈ course.levels, level.name = input.level) ∧
    ((∀ level ∈ course.levels, level.name ≠ input.level) →
      ∃ error, input.resolve course.store = .error error ∧
        Http.errorResponse error = .ofJson 422 (.object [("level",
          .array [.string ("Object with name=" ++ input.level ++ " does not exist.")])]))
  level_resolves_iff (input : LevelInput) (canHold : course.CanHold input.toolbox) :
    ((∃ resolved, input.resolve course.store = .ok resolved) ↔
      ∃ toolbox ∈ course.toolboxes, toolbox.name = input.toolbox) ∧
    ((∀ toolbox ∈ course.toolboxes, toolbox.name ≠ input.toolbox) →
      ∃ error, input.resolve course.store = .error error ∧
        Http.errorResponse error = .ofJson 422 (.object [("toolbox",
          .array [.string ("Object with name=" ++ input.toolbox ++ " does not exist.")])]))
  /-- No label is ambiguous, whether or not it can be kept. -/
  never_ambiguous (field : String) :
    (∀ input : TaskInput,
      input.resolve course.store ≠ .error (.validation field .ambiguous)) ∧
    ∀ input : LevelInput,
      input.resolve course.store ≠ .error (.validation field .ambiguous)

theorem Sound.gainsRow_task (sound : course.Sound) {input : TaskInput} {level : StoredLevel}
    (isLevel : level ∈ course.levels) (isName : level.name = input.level) (now : Time.Instant)
    {id : Int64} (fresh : ∀ task ∈ course.tasks, task.id ≠ id ∧ task.name ≠ input.name)
    (canHold : ∀ text ∈ [input.name, input.setting, input.solution], course.CanHold text) :
    ∃ entered,
      course.enterTask now ⟨id, input.name, level.id, input.setting, input.solution⟩ =
        (entered, none) ∧
      course.GainsRow entered .task (.object
        [("id", idValue id), ("name", .string input.name), ("level", .string input.level),
          ("setting", .string input.setting), ("solution", .string input.solution)]) := by
  obtain ⟨entered, isEntered, stillSound, sameLevels, appended⟩ :=
    sound.enterTask now ⟨id, input.name, level.id, input.setting, input.solution⟩ canHold
      (fun other member => (fresh other member).1) (fun other member => (fresh other member).2)
      ⟨level, isLevel, rfl⟩
  obtain ⟨before, after, listed, nowListed⟩ :=
    sound.fetch_task_of_append stillSound sameLevels appended isLevel rfl
  refine ⟨entered, isEntered, before, _, after, listed, nowListed, ?_⟩
  rw [← isName]
  rfl

theorem Sound.gainsRow_level (sound : course.Sound) {input : LevelInput} {toolbox : Related}
    (isToolbox : toolbox ∈ course.toolboxes) (isName : toolbox.name = input.toolbox)
    (now : Time.Instant) {id : Int64}
    (fresh : ∀ level ∈ course.levels, level.id ≠ id ∧ level.name ≠ input.name)
    (canHold : course.CanHold input.name) :
    ∃ entered,
      course.enterLevel now ⟨id, input.level, input.name, input.credits, toolbox.id⟩ =
        (entered, none) ∧
      course.GainsRow entered .level (.object
        [("id", idValue id), ("level", numberValue input.level), ("name", .string input.name),
          ("credits", numberValue input.credits), ("toolbox", .string input.toolbox),
          ("tasks", .array [])]) := by
  have freshId : ∀ other ∈ course.levels, other.id ≠ id :=
    fun other member => (fresh other member).1
  obtain ⟨entered, isEntered, stillSound, sameToolboxes, sameTasks, appended⟩ :=
    sound.enterLevel now ⟨id, input.level, input.name, input.credits, toolbox.id⟩ canHold freshId
      (fun other member => (fresh other member).2) ⟨toolbox, isToolbox, rfl⟩
  obtain ⟨before, after, listed, nowListed⟩ :=
    sound.fetch_level_of_append stillSound sameToolboxes sameTasks appended freshId isToolbox rfl
  refine ⟨entered, isEntered, before, _, after, listed, nowListed, ?_⟩
  rw [← isName]
  rfl

/-- In a course that is kept by the rules, resolving labels undoes the export and the
export undoes resolving labels. -/
theorem Sound.roundTrips (sound : course.Sound) : course.RoundTrips where
  listed_task_resolves := ⟨_, sound.fetch_task, fun _ => sound.resolve_of_listed_task⟩
  listed_level_resolves := ⟨_, sound.fetch_level, fun _ => sound.resolve_of_listed_level⟩
  resolved_task_is_listed input resolved isResolved now id fresh := by
    obtain ⟨level, isLevel, isName, rfl⟩ := sound.resolve_task_eq_ok_iff.mp isResolved
    by_cases canHold : ∀ text ∈ [input.name, input.setting, input.solution], course.CanHold text
    · obtain ⟨entered, isEntered, gains⟩ := sound.gainsRow_task isLevel isName now fresh canHold
      dsimp only
      rw [isEntered]
      exact ⟨fun _ => gains, fun _ => rfl,
        fun ⟨text, isText, cannotHold⟩ => absurd (canHold text isText) cannotHold⟩
    · push Not at canHold
      obtain ⟨text, isText, cannotHold⟩ := canHold
      have refused := enterTask_of_not_canHold now
        ⟨id, input.name, level.id, input.setting, input.solution⟩ isText cannotHold
      dsimp only
      rw [refused]
      exact ⟨fun isEntered => absurd isEntered (by simp),
        fun canHold => absurd (canHold text isText) cannotHold, fun _ => rfl⟩
  resolved_level_is_listed input resolved isResolved now id fresh := by
    obtain ⟨toolbox, isToolbox, isName, rfl⟩ := sound.resolve_level_eq_ok_iff.mp isResolved
    by_cases canHold : course.CanHold input.name
    · obtain ⟨entered, isEntered, gains⟩ :=
        sound.gainsRow_level isToolbox isName now fresh canHold
      dsimp only
      rw [isEntered]
      exact ⟨fun _ => gains, fun _ => rfl, fun cannotHold => absurd canHold cannotHold⟩
    · have refused := enterLevel_of_not_canHold now
        ⟨id, input.level, input.name, input.credits, toolbox.id⟩ canHold
      dsimp only
      rw [refused]
      exact ⟨fun isEntered => absurd isEntered (by simp), fun holds => absurd holds canHold,
        fun _ => rfl⟩
  task_resolves_iff input canHold := by
    constructor
    · simp only [sound.resolve_task_eq_ok_iff]
      exact ⟨fun ⟨_, level, isLevel, isName, _⟩ => ⟨level, isLevel, isName⟩,
        fun ⟨level, isLevel, isName⟩ => ⟨_, level, isLevel, isName, rfl⟩⟩
    · intro unknown
      have notFound := sound.labels_level.resolveLabel_eq_unknown "level" canHold (by
        intro record member
        obtain ⟨level, isLevel, rfl⟩ := List.mem_map.mp member
        exact unknown level isLevel)
      refine ⟨.validation "level" (.unknown input.level), ?_, rfl⟩
      rw [TaskInput.resolve, map_eq_error_iff]
      exact notFound
  level_resolves_iff input canHold := by
    constructor
    · simp only [sound.resolve_level_eq_ok_iff]
      exact ⟨fun ⟨_, toolbox, isToolbox, isName, _⟩ => ⟨toolbox, isToolbox, isName⟩,
        fun ⟨toolbox, isToolbox, isName⟩ => ⟨_, toolbox, isToolbox, isName, rfl⟩⟩
    · intro unknown
      have notFound := sound.labels_toolbox.resolveLabel_eq_unknown "toolbox" canHold unknown
      refine ⟨.validation "toolbox" (.unknown input.toolbox), ?_, rfl⟩
      rw [LevelInput.resolve, map_eq_error_iff]
      exact notFound
  never_ambiguous reported := by
    constructor
    · intro input isAmbiguous
      exact sound.labels_level.resolveLabel_ne_ambiguous "level" input.level reported
        (map_eq_error_iff.mp isAmbiguous)
    · intro input isAmbiguous
      exact sound.labels_toolbox.resolveLabel_ne_ambiguous "toolbox" input.toolbox reported
        (map_eq_error_iff.mp isAmbiguous)

theorem sound_courseMemory : (inMemory courseMemory).Sound := by
  constructor <;> decide

/-- The course of one task round-trips in tables and in memory, and a second task can
be entered for its level. -/
theorem roundTrips_of_course :
    (inMemory courseMemory).RoundTrips ∧ (inTables courseTables .batched).RoundTrips ∧
      (inTables courseTables .batched).GainsRow
        ((inTables courseTables .batched).enterTask .epoch ⟨2, "walk", 1, "", ""⟩).1 .task
        (.object
          [("id", idValue 2), ("name", .string "walk"), ("level", .string "first"),
            ("setting", .string ""), ("solution", .string "")]) := by
  have inMemoryTrips := Sound.roundTrips sound_courseMemory
  have sound : (inTables courseTables .batched).Sound := reachable_courseTables
  have inTablesTrips := Sound.roundTrips sound
  refine ⟨inMemoryTrips, inTablesTrips, ?_⟩
  have isResolved : TaskInput.resolve ⟨"walk", "first", "", ""⟩
      (inTables courseTables .batched).store = .ok ⟨"walk", 1, "", ""⟩ :=
    sound.resolve_task_eq_ok_iff.mpr ⟨⟨1, 3, "first", 5, 1⟩, by decide, rfl, rfl⟩
  have fresh : ∀ task ∈ (inTables courseTables .batched).tasks,
      task.id ≠ 2 ∧ task.name ≠ "walk" := by
    decide
  have canHold : ∀ text ∈ ["walk", "", ""], IsStorable text := by decide
  obtain ⟨gains, isEntered, _⟩ :=
    inTablesTrips.resolved_task_is_listed _ _ isResolved .epoch 2 fresh
  exact gains (isEntered canHold)

/-- The tables refuse a task with a name that they cannot hold, though its level is resolved. -/
theorem not_forall_resolved_task_is_listed :
    ¬ ∀ course : Course, course.Sound →
      ∀ (input : TaskInput) (resolved : ResolvedTask), input.resolve course.store = .ok resolved →
      ∀ (now : Time.Instant) (id : Int64),
        (∀ task ∈ course.tasks, task.id ≠ id ∧ task.name ≠ input.name) →
        course.GainsRow
          (course.enterTask now
            ⟨id, resolved.name, resolved.levelId, resolved.setting, resolved.solution⟩).1 .task
          (.object
            [("id", idValue id), ("name", .string input.name), ("level", .string input.level),
              ("setting", .string input.setting), ("solution", .string input.solution)]) := by
  intro listed
  have sound : (inTables courseTables .batched).Sound := reachable_courseTables
  have isResolved : TaskInput.resolve ⟨"a\x00b", "first", "", ""⟩
      (inTables courseTables .batched).store = .ok ⟨"a\x00b", 1, "", ""⟩ :=
    sound.resolve_task_eq_ok_iff.mpr ⟨⟨1, 3, "first", 5, 1⟩, by decide, rfl, rfl⟩
  have fresh : ∀ task ∈ (inTables courseTables .batched).tasks,
      task.id ≠ 2 ∧ task.name ≠ "a\x00b" := by
    decide
  have cannotHold : ¬ (inTables courseTables .batched).CanHold "a\x00b" := by
    change ¬ IsStorable "a\x00b"
    decide
  have gains := listed _ sound _ _ isResolved .epoch 2 fresh
  rw [enterTask_of_not_canHold .epoch ⟨2, "a\x00b", 1, "", ""⟩ List.mem_cons_self cannotHold]
    at gains
  exact not_gainsRow_self .task _ gains

end Course

end LearnExport
