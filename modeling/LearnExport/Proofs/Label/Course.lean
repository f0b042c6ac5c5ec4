import LearnExport.Proofs.Schema.History
import LearnExport.Proofs.Schema.StoredNames
import LearnExport.Proofs.Store.MemoryListing
import LearnExport.Proofs.Store.TableListing

/-!
# Toolboxes, levels and tasks

The levels and tasks of a course are kept with the ids of their toolboxes and
levels, in memory or in tables. Both list them alike, and both resolve labels by
the names of what they keep. What is entered into memory is kept as it is; the
tables refuse a text that they cannot hold.
-/

namespace LearnExport

open Schema

/-- The draft that gives every column of a level. -/
def StoredLevel.draft (level : StoredLevel) : LevelDraft where
  id := .given level.id
  level := .given level.level
  name := .given level.name
  credits := .given level.credits
  toolboxId := .given level.toolboxId

/-- The draft that gives every column of a task. -/
def StoredTask.draft (task : StoredTask) : TaskDraft where
  id := .given task.id
  name := .given task.name
  levelId := .given task.levelId
  setting := .given task.setting
  solution := .given task.solution

/-- A course with the way in which it is kept. -/
inductive Course where
  | inMemory (memory : Memory)
  | inTables (tables : Tables) (loading : RelationLoading)

namespace Course

def store : Course → Store
  | inMemory memory => memory.toStore
  | inTables tables loading => (Database.ofTables tables).toStore loading

/-- The toolboxes that are kept, by id and name. -/
def toolboxes : Course → List Related
  | inMemory memory => memory.toolboxes.map EnteredToolbox.related
  | inTables tables _ => (tables.rows .toolboxes).map ToolboxRow.related

def levels : Course → List StoredLevel
  | inMemory memory => memory.levels
  | inTables tables _ => tables.rows .levels

def tasks : Course → List StoredTask
  | inMemory memory => memory.tasks
  | inTables tables _ => tables.rows .tasks

/-- That ids and names are unique and that every reference leads somewhere. -/
structure Coherent (course : Course) : Prop where
  toolboxIds : (course.toolboxes.map (·.id)).Nodup
  toolboxNames : (course.toolboxes.map (·.name)).Nodup
  levelIds : (course.levels.map (·.id)).Nodup
  levelNames : (course.levels.map (·.name)).Nodup
  taskIds : (course.tasks.map (·.id)).Nodup
  hasToolbox : ∀ level ∈ course.levels, ∃ toolbox ∈ course.toolboxes, toolbox.id = level.toolboxId
  hasLevel : ∀ task ∈ course.tasks, ∃ level ∈ course.levels, level.id = task.levelId

/-- That a course is kept by the rules: those that the tables enforce, and which
are asked of what is entered into memory. -/
def Sound : Course → Prop
  | inMemory memory => (Course.inMemory memory).Coherent
  | inTables tables _ => tables.Reachable

/-- That a text can be kept. -/
def CanHold : Course → String → Prop
  | inMemory _, _ => True
  | inTables _ _, text => IsStorable text

theorem Sound.coherent {course : Course} (sound : course.Sound) : course.Coherent := by
  cases course with
  | inMemory memory => exact sound
  | inTables tables loading =>
      have keeps := (Tables.Reachable.consistent sound).keepsSchema
      obtain ⟨_, toolboxIds, levelIds, taskIds, _⟩ := keeps.ids
      obtain ⟨_, toolboxNames, levelNames, _⟩ := keeps.names
      exact {
        toolboxIds := by
          rw [toolboxes, List.map_map]
          exact toolboxIds
        toolboxNames := by
          rw [toolboxes, List.map_map]
          exact toolboxNames
        levelIds := levelIds
        levelNames := levelNames
        taskIds := taskIds
        hasToolbox := by
          intro level member
          obtain ⟨toolbox, isToolbox, isKey⟩ := keeps.levels level member
          exact ⟨toolbox.related, List.mem_map_of_mem isToolbox, isKey⟩
        hasLevel := keeps.tasks }

/-! ### What is listed -/

/-- The tasks of a level, by id. -/
def tasksOf (course : Course) (levelId : Int64) : List Related :=
  sortedByRank Related.rank
    ((course.tasks.filter fun task => task.levelId == levelId).map StoredTask.related)

def joinTask? (course : Course) (task : StoredTask) : Option Task :=
  (course.levels.find? fun level => level.id == task.levelId).map fun level =>
    task.withLevel level.related

def joinLevel? (course : Course) (level : StoredLevel) : Option Level :=
  (course.toolboxes.find? fun toolbox => toolbox.id == level.toolboxId).map fun toolbox =>
    level.withRelations toolbox (course.tasksOf level.id)

theorem Sound.fetch_task {course : Course} (sound : course.Sound) :
    course.store.fetch .task .all =
      .ok (Entity.task.sorted (course.tasks.filterMap course.joinTask?)) := by
  cases course with
  | inMemory memory =>
      refine congrArg Except.ok ((memory.fetch_eq_sorted .task .all).trans ?_)
      rw [Scope.filter_all]
      rfl
  | inTables tables loading =>
      have consistent := Tables.Reachable.consistent sound
      refine (Database.fetch_ofTables consistent loading .task .all).trans ?_
      rw [Tables.listing, Scope.filter_all]
      rfl

theorem Sound.fetch_level {course : Course} (sound : course.Sound) :
    course.store.fetch .level .all =
      .ok (Entity.level.sorted (course.levels.filterMap course.joinLevel?)) := by
  cases course with
  | inMemory memory =>
      have joined (level : StoredLevel) :
          memory.joinLevel? level = (Course.inMemory memory).joinLevel? level := by
        rw [Memory.joinLevel?, joinLevel?, toolboxes, List.find?_map, Option.map_map]
        rfl
      refine congrArg Except.ok ((memory.fetch_eq_sorted .level .all).trans ?_)
      rw [Scope.filter_all, Memory.records, funext joined]
      rfl
  | inTables tables loading =>
      have joined (level : StoredLevel) :
          tables.joinLevel? level = (Course.inTables tables loading).joinLevel? level := by
        rw [Tables.joinLevel?, joinLevel?, toolboxes, List.find?_map, Option.map_map]
        rfl
      have consistent := Tables.Reachable.consistent sound
      refine (Database.fetch_ofTables consistent loading .level .all).trans ?_
      rw [Tables.listing, Scope.filter_all, Tables.records, funext joined]
      rfl

/-! ### What is entered -/

/-- The course after a task has been entered, and why it was refused if it was. -/
def enterTask (course : Course) (now : Time.Instant) (task : StoredTask) :
    Course × Option Refusal :=
  match course with
  | inMemory memory => (inMemory (memory.insert (.task task)), none)
  | inTables tables loading =>
      let (changed, refusal?) := tables.insert .tasks now task.draft
      (inTables changed loading, refusal?)

/-- The course after a level has been entered, and why it was refused if it was. -/
def enterLevel (course : Course) (now : Time.Instant) (level : StoredLevel) :
    Course × Option Refusal :=
  match course with
  | inMemory memory => (inMemory (memory.insert (.level level)), none)
  | inTables tables loading =>
      let (changed, refusal?) := tables.insert .levels now level.draft
      (inTables changed loading, refusal?)

private theorem nodup_map_append {α β : Type} {key : α → β} {kept : List α} {added : α}
    (distinct : (kept.map key).Nodup) (fresh : ∀ other ∈ kept, key other ≠ key added) :
    ((kept ++ [added]).map key).Nodup := by
  rw [List.map_append, List.map_singleton, ← List.concat_eq_append]
  refine distinct.concat fun taken => ?_
  obtain ⟨other, member, same⟩ := List.mem_map.mp taken
  exact fresh other member same

theorem Coherent.append_task {course entered : Course} (coherent : course.Coherent)
    {task : StoredTask} (sameToolboxes : entered.toolboxes = course.toolboxes)
    (sameLevels : entered.levels = course.levels) (added : entered.tasks = course.tasks ++ [task])
    (freshId : ∀ other ∈ course.tasks, other.id ≠ task.id)
    (hasLevel : ∃ level ∈ course.levels, level.id = task.levelId) : entered.Coherent where
  toolboxIds := sameToolboxes ▸ coherent.toolboxIds
  toolboxNames := sameToolboxes ▸ coherent.toolboxNames
  levelIds := sameLevels ▸ coherent.levelIds
  levelNames := sameLevels ▸ coherent.levelNames
  taskIds := added ▸ nodup_map_append coherent.taskIds freshId
  hasToolbox := by
    rw [sameToolboxes, sameLevels]
    exact coherent.hasToolbox
  hasLevel := by
    rw [sameLevels, added]
    intro other member
    rcases List.mem_append.mp member with isOld | isNew
    · exact coherent.hasLevel other isOld
    · rw [List.mem_singleton.mp isNew]
      exact hasLevel

theorem Coherent.append_level {course entered : Course} (coherent : course.Coherent)
    {level : StoredLevel} (sameToolboxes : entered.toolboxes = course.toolboxes)
    (sameTasks : entered.tasks = course.tasks) (added : entered.levels = course.levels ++ [level])
    (freshId : ∀ other ∈ course.levels, other.id ≠ level.id)
    (freshName : ∀ other ∈ course.levels, other.name ≠ level.name)
    (hasToolbox : ∃ toolbox ∈ course.toolboxes, toolbox.id = level.toolboxId) :
    entered.Coherent where
  toolboxIds := sameToolboxes ▸ coherent.toolboxIds
  toolboxNames := sameToolboxes ▸ coherent.toolboxNames
  levelIds := added ▸ nodup_map_append coherent.levelIds freshId
  levelNames := added ▸ nodup_map_append coherent.levelNames freshName
  taskIds := sameTasks ▸ coherent.taskIds
  hasToolbox := by
    rw [sameToolboxes, added]
    intro other member
    rcases List.mem_append.mp member with isOld | isNew
    · exact coherent.hasToolbox other isOld
    · rw [List.mem_singleton.mp isNew]
      exact hasToolbox
  hasLevel := by
    rw [sameTasks, added]
    intro task member
    obtain ⟨found, isLevel, isKey⟩ := coherent.hasLevel task member
    exact ⟨found, List.mem_append_left _ isLevel, isKey⟩

/-- A task that can be kept is entered after the others. -/
theorem Sound.enterTask {course : Course} (sound : course.Sound) (now : Time.Instant)
    (task : StoredTask)
    (canHold : ∀ text ∈ [task.name, task.setting, task.solution], course.CanHold text)
    (freshId : ∀ other ∈ course.tasks, other.id ≠ task.id)
    (freshName : ∀ other ∈ course.tasks, other.name ≠ task.name)
    (hasLevel : ∃ level ∈ course.levels, level.id = task.levelId) :
    ∃ entered, course.enterTask now task = (entered, none) ∧ entered.Sound ∧
      entered.levels = course.levels ∧ entered.tasks = course.tasks ++ [task] := by
  cases course with
  | inMemory memory =>
      refine ⟨inMemory (memory.insert (.task task)), rfl, ?_, rfl, rfl⟩
      exact sound.coherent.append_task rfl rfl rfl freshId hasLevel
  | inTables tables loading =>
      have referencesHold (reference : Reference) :
          @Tables.isBroken tables .tasks task reference = false := by
        cases reference with
        | taskLevel =>
            have found : tables.hasKey .levels task.levelId = true := Tables.hasKey_iff.mpr hasLevel
            change (!tables.hasKey .levels task.levelId) = false
            rw [found]
            rfl
        | _ => rfl
      have allowed : tables.refusal? .tasks task = none := by
        refine Tables.refusal?_eq_none_of_fresh rfl freshId ?_ referencesHold
        intro name named other member sameName
        exact freshName other member (Option.some.inj (sameName.trans named.symm))
      obtain ⟨inserted, reachable⟩ := Tables.Reachable.insert_eq_append sound .tasks now
        task.draft canHold rfl rfl (fun _ => rfl) allowed
      have notLevels : Table.tasks ≠ .levels := by decide
      refine ⟨inTables (tables.append .tasks task) loading, ?_, reachable, ?_, ?_⟩
      · rw [Course.enterTask, inserted]
      · exact tables.rows_append_of_ne task notLevels
      · exact tables.rows_append_self .tasks task

theorem enterTask_of_not_canHold {course : Course} (now : Time.Instant) (task : StoredTask)
    {text : String} (isText : text ∈ [task.name, task.setting, task.solution])
    (cannotHold : ¬ course.CanHold text) :
    course.enterTask now task = (course, some .unstorableText) := by
  cases course with
  | inMemory memory => exact absurd trivial cannotHold
  | inTables tables loading => rw [enterTask, Tables.insert_of_unstorable isText cannotHold]

/-- A level that can be kept is entered after the others. -/
theorem Sound.enterLevel {course : Course} (sound : course.Sound) (now : Time.Instant)
    (level : StoredLevel) (canHold : course.CanHold level.name)
    (freshId : ∀ other ∈ course.levels, other.id ≠ level.id)
    (freshName : ∀ other ∈ course.levels, other.name ≠ level.name)
    (hasToolbox : ∃ toolbox ∈ course.toolboxes, toolbox.id = level.toolboxId) :
    ∃ entered, course.enterLevel now level = (entered, none) ∧ entered.Sound ∧
      entered.toolboxes = course.toolboxes ∧ entered.tasks = course.tasks ∧
      entered.levels = course.levels ++ [level] := by
  cases course with
  | inMemory memory =>
      refine ⟨inMemory (memory.insert (.level level)), rfl, ?_, rfl, rfl, rfl⟩
      exact sound.coherent.append_level rfl rfl rfl freshId freshName hasToolbox
  | inTables tables loading =>
      have referencesHold (reference : Reference) :
          @Tables.isBroken tables .levels level reference = false := by
        cases reference with
        | levelToolbox =>
            obtain ⟨toolbox, member, isKey⟩ := hasToolbox
            obtain ⟨row, isRow, rfl⟩ := List.mem_map.mp member
            have found : tables.hasKey .toolboxes level.toolboxId = true :=
              Tables.hasKey_iff.mpr ⟨row, isRow, isKey⟩
            change (!tables.hasKey .toolboxes level.toolboxId) = false
            rw [found]
            rfl
        | _ => rfl
      have allowed : tables.refusal? .levels level = none := by
        refine Tables.refusal?_eq_none_of_fresh rfl freshId ?_ referencesHold
        intro name named other member sameName
        exact freshName other member (Option.some.inj (sameName.trans named.symm))
      have storable : ∀ text ∈ [level.name], IsStorable text := by
        intro text isName
        rw [List.mem_singleton.mp isName]
        exact canHold
      obtain ⟨inserted, reachable⟩ := Tables.Reachable.insert_eq_append sound .levels now
        level.draft storable rfl rfl (fun _ => rfl) allowed
      have notToolboxes : Table.levels ≠ .toolboxes := by decide
      have notTasks : Table.levels ≠ .tasks := by decide
      refine ⟨inTables (tables.append .levels level) loading, ?_, reachable, ?_, ?_, ?_⟩
      · rw [Course.enterLevel, inserted]
      · exact congrArg (List.map ToolboxRow.related) (tables.rows_append_of_ne level notToolboxes)
      · exact tables.rows_append_of_ne level notTasks
      · exact tables.rows_append_self .levels level

theorem enterLevel_of_not_canHold {course : Course} (now : Time.Instant) (level : StoredLevel)
    (cannotHold : ¬ course.CanHold level.name) :
    course.enterLevel now level = (course, some .unstorableText) := by
  cases course with
  | inMemory memory => exact absurd trivial cannotHold
  | inTables tables loading =>
      rw [enterLevel, Tables.insert_of_unstorable (List.mem_singleton_self level.name) cannotHold]

end Course

end LearnExport
