import LearnExport.Proofs.Store.Agreement
import Mathlib.Algebra.BigOperators.Group.Finset.Basic
import Mathlib.Data.Finset.Prod

/-!
# Credits count each solved task once

A student is credited for the tasks that some session of theirs has solved, each by the
level it belongs to. However often a task is solved it counts once, so a session changes the
credits of its own student alone, and only if it is the first one to solve its task. Memory and
tables count the same, and no sum on the way leaves 64 bits while there are fewer than 2 ^ 32
tasks.
-/

namespace LearnExport

open Schema

/-- That a student has solved a task in one of some sessions. -/
def HasSolved (sessions : List TaskSession) (studentId taskId : Int64) : Prop :=
  ∃ session ∈ sessions,
    session.studentId = studentId ∧ session.taskId = taskId ∧ session.solved = true

instance (sessions : List TaskSession) (studentId taskId : Int64) :
    Decidable (HasSolved sessions studentId taskId) :=
  inferInstanceAs (Decidable (∃ _ ∈ sessions, _))

/-- The tasks that a student has solved and that have a level, with their levels. -/
def creditedTasks (sessions : List TaskSession) (tasks : List StoredTask)
    (levels : List StoredLevel) (studentId : Int64) : Finset (StoredTask × StoredLevel) :=
  {pair ∈ tasks.toFinset ×ˢ levels.toFinset |
    pair.1.levelId = pair.2.id ∧ HasSolved sessions studentId pair.1.id}

def creditSum (credited : Finset (StoredTask × StoredLevel)) : Int :=
  ∑ pair ∈ credited, pair.2.credits.toInt

section Counting

variable {sessions : List TaskSession} {tasks : List StoredTask} {levels : List StoredLevel}
  {studentId taskId : Int64} {task : StoredTask} {level : StoredLevel}

theorem mem_creditedTasks_iff :
    (task, level) ∈ creditedTasks sessions tasks levels studentId ↔
      task ∈ tasks ∧ level ∈ levels ∧ task.levelId = level.id ∧
        HasSolved sessions studentId task.id := by
  simp only [creditedTasks, Finset.mem_filter, Finset.mem_product, List.mem_toFinset, and_assoc]

theorem hasSolved_append_iff {session : TaskSession} :
    HasSolved (sessions ++ [session]) studentId taskId ↔
      HasSolved sessions studentId taskId ∨
        session.studentId = studentId ∧ session.taskId = taskId ∧ session.solved = true := by
  simp only [HasSolved, List.mem_append, List.mem_singleton, or_and_right, exists_or,
    exists_eq_left]

/-- That a session solves its task and none of some earlier ones of its student did. -/
def IsFirstSolution (sessions : List TaskSession) (session : TaskSession) : Prop :=
  session.solved = true ∧ ¬ HasSolved sessions session.studentId session.taskId

theorem hasSolved_append_of_not {session : TaskSession}
    (notFirst : studentId ≠ session.studentId ∨ taskId ≠ session.taskId ∨
      ¬ IsFirstSolution sessions session) :
    HasSolved (sessions ++ [session]) studentId taskId ↔
      HasSolved sessions studentId taskId := by
  rw [hasSolved_append_iff]
  refine or_iff_left_of_imp ?_
  rintro ⟨rfl, rfl, isSolved⟩
  by_contra unsolved
  rcases notFirst with otherStudent | otherTask | notFirst
  · exact otherStudent rfl
  · exact otherTask rfl
  · exact notFirst ⟨isSolved, unsolved⟩

/-- A first solution adds its task with the level of the task. -/
theorem creditedTasks_append {session : TaskSession}
    (tasksDiffer : (tasks.map (·.id)).Nodup) (levelsDiffer : (levels.map (·.id)).Nodup)
    (isTask : task ∈ tasks) (isLevel : level ∈ levels) (belongs : task.levelId = level.id)
    (isOfTask : task.id = session.taskId) (isFirst : IsFirstSolution sessions session) :
    creditedTasks (sessions ++ [session]) tasks levels session.studentId =
      insert (task, level) (creditedTasks sessions tasks levels session.studentId) := by
  ext ⟨other, otherLevel⟩
  rw [Finset.mem_insert, mem_creditedTasks_iff, mem_creditedTasks_iff, hasSolved_append_iff,
    Prod.mk.injEq]
  constructor
  · rintro ⟨isOther, isOtherLevel, otherBelongs, wasSolved | ⟨_, isSame, _⟩⟩
    · exact .inr ⟨isOther, isOtherLevel, otherBelongs, wasSolved⟩
    · have sameTask : other = task :=
        List.inj_on_of_nodup_map tasksDiffer isOther isTask (isSame.symm.trans isOfTask.symm)
      subst sameTask
      exact .inl ⟨rfl, List.inj_on_of_nodup_map levelsDiffer isOtherLevel isLevel
        (otherBelongs.symm.trans belongs)⟩
  · rintro (⟨rfl, rfl⟩ | ⟨isOther, isOtherLevel, otherBelongs, wasSolved⟩)
    · exact ⟨isTask, isLevel, belongs, .inr ⟨rfl, isOfTask.symm, isFirst.1⟩⟩
    · exact ⟨isOther, isOtherLevel, otherBelongs, .inl wasSolved⟩

theorem creditSum_append {session : TaskSession}
    (tasksDiffer : (tasks.map (·.id)).Nodup) (levelsDiffer : (levels.map (·.id)).Nodup)
    (isTask : task ∈ tasks) (isLevel : level ∈ levels) (belongs : task.levelId = level.id)
    (isOfTask : task.id = session.taskId) (isFirst : IsFirstSolution sessions session) :
    creditSum (creditedTasks (sessions ++ [session]) tasks levels session.studentId) =
      creditSum (creditedTasks sessions tasks levels session.studentId) +
        level.credits.toInt := by
  have isNew : (task, level) ∉ creditedTasks sessions tasks levels session.studentId := by
    intro member
    have wasSolved := (mem_creditedTasks_iff.mp member).2.2.2
    rw [isOfTask] at wasSolved
    exact isFirst.2 wasSolved
  rw [creditedTasks_append tasksDiffer levelsDiffer isTask isLevel belongs isOfTask isFirst,
    creditSum, Finset.sum_insert isNew, add_comm]
  rfl

/-- That a student has solved a task in sessions with one id only. -/
def SolvedOnlyBy (sessions : List TaskSession) (studentId taskId sessionId : Int64) : Prop :=
  ∀ session ∈ sessions, session.studentId = studentId → session.taskId = taskId →
    session.solved = true → session.id = sessionId

instance (sessions : List TaskSession) (studentId taskId sessionId : Int64) :
    Decidable (SolvedOnlyBy sessions studentId taskId sessionId) :=
  inferInstanceAs (Decidable (∀ _ ∈ sessions, _))

theorem hasSolved_filter_iff {sessionId : Int64} :
    HasSolved (sessions.filter fun session => session.id != sessionId) studentId taskId ↔
      ¬ SolvedOnlyBy sessions studentId taskId sessionId := by
  simp only [HasSolved, SolvedOnlyBy, List.mem_filter, bne_iff_ne, not_forall, exists_prop]
  exact exists_congr fun session => by tauto

/-- Without the sessions of one id, the tasks that were solved by no others are gone. -/
theorem creditSum_filter (sessionId : Int64) :
    creditSum (creditedTasks (sessions.filter fun session => session.id != sessionId) tasks levels
        studentId) =
      creditSum (creditedTasks sessions tasks levels studentId) -
        creditSum {pair ∈ creditedTasks sessions tasks levels studentId |
          SolvedOnlyBy sessions studentId pair.1.id sessionId} := by
  have remaining :
      creditedTasks (sessions.filter fun session => session.id != sessionId) tasks levels
          studentId =
        {pair ∈ creditedTasks sessions tasks levels studentId |
          ¬ SolvedOnlyBy sessions studentId pair.1.id sessionId} := by
    ext ⟨task, level⟩
    rw [Finset.mem_filter, mem_creditedTasks_iff, mem_creditedTasks_iff, hasSolved_filter_iff]
    have wasSolved (remains : ¬ SolvedOnlyBy sessions studentId task.id sessionId) :
        HasSolved sessions studentId task.id := by
      obtain ⟨session, member, solves⟩ := hasSolved_filter_iff.mpr remains
      exact ⟨session, (List.mem_filter.mp member).1, solves⟩
    tauto
  have parts := Finset.sum_filter_add_sum_filter_not
    (creditedTasks sessions tasks levels studentId)
    (fun pair => SolvedOnlyBy sessions studentId pair.1.id sessionId)
    (fun pair => pair.2.credits.toInt)
  rw [remaining, creditSum, creditSum, creditSum, ← parts, add_sub_cancel_left]

end Counting

section Sums

/-- The sum of the credits of some levels, as an integer of any size. -/
def levelSum : List StoredLevel → Int
  | [] => 0
  | level :: others => level.credits.toInt + levelSum others

theorem levelSum_map_snd {pairs : List (StoredTask × StoredLevel)} (distinct : pairs.Nodup) :
    levelSum (pairs.map Prod.snd) = creditSum pairs.toFinset := by
  induction pairs with
  | nil => rfl
  | cons pair others ih =>
      obtain ⟨fresh, distinctOthers⟩ := List.nodup_cons.mp distinct
      rw [List.map_cons, levelSum, ih distinctOthers, creditSum, creditSum, List.toFinset_cons,
        Finset.sum_insert (mt List.mem_toFinset.mp fresh)]

theorem totalCredits_eq_ofInt (levels : List StoredLevel) :
    totalCredits levels = Int64.ofInt (levelSum levels) := by
  have widened (credits : Int32) : credits.toInt64 = Int64.ofInt credits.toInt := by
    rw [← Int32.toInt_toInt64, Int64.ofInt_toInt]
  have summed (total : Int64) :
      levels.foldl (fun total level => total + level.credits.toInt64) total =
        total + Int64.ofInt (levelSum levels) := by
    induction levels generalizing total with
    | nil => simp [levelSum]
    | cons level others ih =>
        rw [List.foldl_cons, ih, levelSum, Int64.ofInt_add, widened, Int64.add_assoc]
  rw [totalCredits, summed 0, Int64.zero_add]

theorem levelSum_bounds (levels : List StoredLevel) :
    -(2147483648 * levels.length) ≤ levelSum levels ∧
      levelSum levels ≤ 2147483647 * levels.length := by
  induction levels with
  | nil => simp [levelSum]
  | cons level others ih =>
      have least := level.credits.le_toInt
      have greatest := level.credits.toInt_lt
      rw [levelSum, List.length_cons]
      push_cast
      omega

/-- Fewer than 2 ^ 32 levels have a sum of 64 bits. -/
theorem levelSum_inRange {levels : List StoredLevel} (few : levels.length < 4294967296) :
    Int64.minValue.toInt ≤ levelSum levels ∧ levelSum levels ≤ Int64.maxValue.toInt := by
  have bounds := levelSum_bounds levels
  have least : Int64.minValue.toInt = -9223372036854775808 := rfl
  have greatest : Int64.maxValue.toInt = 9223372036854775807 := rfl
  rw [least, greatest]
  omega

end Sums

namespace Memory

variable {memory : Memory}

/-- The tasks that a student is credited for, with their levels. -/
def creditedTasks (memory : Memory) (studentId : Int64) : Finset (StoredTask × StoredLevel) :=
  LearnExport.creditedTasks memory.taskSessions memory.tasks memory.levels studentId

/-- The levels whose credits are added up for a student, in the order of their tasks. -/
def creditedLevels (memory : Memory) (studentId : Int64) : List StoredLevel :=
  (memory.tasks.filter fun task =>
    (memory.solvedTaskIds studentId).contains task.id).filterMap fun task =>
      memory.level? task.levelId

theorem contains_solvedTaskIds_iff {studentId taskId : Int64} :
    (memory.solvedTaskIds studentId).contains taskId = true ↔
      HasSolved memory.taskSessions studentId taskId := by
  simp only [solvedTaskIds, HasSolved, List.contains_iff_mem, List.mem_map, List.mem_filter,
    Bool.and_eq_true, beq_iff_eq]
  exact exists_congr fun session => by tauto

theorem length_creditedLevels_le (memory : Memory) (studentId : Int64) :
    (memory.creditedLevels studentId).length ≤ memory.tasks.length :=
  (List.length_filterMap_le _ _).trans (List.length_filter_le _ _)

/-- That no two tasks and no two levels have the same id. -/
structure HasTaskKeys (memory : Memory) : Prop where
  tasks : (memory.tasks.map (·.id)).Nodup
  levels : (memory.levels.map (·.id)).Nodup

namespace HasTaskKeys

variable (keys : memory.HasTaskKeys)
include keys

/-- Adding up the levels of the solved tasks one by one gives the sum over the credited
tasks. -/
theorem levelSum_creditedLevels (studentId : Int64) :
    levelSum (memory.creditedLevels studentId) = creditSum (memory.creditedTasks studentId) := by
  have levelOf (task : StoredTask) (level : StoredLevel) :
      memory.level? task.levelId = some level ↔
        level ∈ memory.levels ∧ level.id = task.levelId :=
    find?_key_eq_some_iff keys.levels
  -- The list of levels is paired with the tasks, which tell its members apart.
  let pairs := (memory.tasks.filter fun task =>
    (memory.solvedTaskIds studentId).contains task.id).filterMap fun task =>
      (memory.level? task.levelId).map fun level => (task, level)
  have distinct : pairs.Nodup := by
    refine List.Nodup.filterMap ?_ ((List.Nodup.of_map _ keys.tasks).filter _)
    intro task other pair fromTask fromOther
    obtain ⟨_, _, rfl⟩ := Option.map_eq_some_iff.mp fromTask
    obtain ⟨_, _, same⟩ := Option.map_eq_some_iff.mp fromOther
    exact (congrArg Prod.fst same).symm
  have sameSet : pairs.toFinset = memory.creditedTasks studentId := by
    ext ⟨task, level⟩
    rw [creditedTasks, mem_creditedTasks_iff, List.mem_toFinset, List.mem_filterMap]
    constructor
    · rintro ⟨other, member, found⟩
      obtain ⟨isTask, isSolved⟩ := List.mem_filter.mp member
      obtain ⟨otherLevel, isFound, same⟩ := Option.map_eq_some_iff.mp found
      obtain ⟨rfl, rfl⟩ := Prod.mk.inj same
      obtain ⟨isLevel, isId⟩ := (levelOf _ _).mp isFound
      exact ⟨isTask, isLevel, isId.symm, contains_solvedTaskIds_iff.mp isSolved⟩
    · rintro ⟨isTask, isLevel, isId, isSolved⟩
      refine ⟨task, List.mem_filter.mpr ⟨isTask, contains_solvedTaskIds_iff.mpr isSolved⟩, ?_⟩
      rw [(levelOf task level).mpr ⟨isLevel, isId.symm⟩, Option.map_some]
  have levels : memory.creditedLevels studentId = pairs.map Prod.snd := by
    rw [List.map_filterMap]
    exact List.filterMap_congr fun task _ => by simp
  rw [levels, levelSum_map_snd distinct, sameSet]

theorem credits_eq (studentId : Int64) :
    memory.credits studentId = Int64.ofInt (creditSum (memory.creditedTasks studentId)) := by
  rw [← keys.levelSum_creditedLevels]
  exact totalCredits_eq_ofInt _

end HasTaskKeys

/-- How the credits of students follow from what is kept in memory. -/
structure CreditsFollow (memory : Memory) : Prop where
  listed : ∀ scope, ∀ student ∈ memory.fetch .student scope,
    student.credits = memory.credits student.id
  /-- Each credited task counts once. -/
  counted : ∀ studentId,
    memory.credits studentId = Int64.ofInt (creditSum (memory.creditedTasks studentId))
  added : ∀ studentId, memory.credits studentId = totalCredits (memory.creditedLevels studentId)
  /-- Neither the sum nor any part of it that is added up first leaves 64 bits. -/
  inRange : memory.tasks.length < 2 ^ 32 → ∀ studentId,
    (∀ count, Int64.minValue.toInt ≤ levelSum ((memory.creditedLevels studentId).take count) ∧
      levelSum ((memory.creditedLevels studentId).take count) ≤ Int64.maxValue.toInt) ∧
    (memory.credits studentId).toInt = creditSum (memory.creditedTasks studentId)
  /-- A new session changes nothing of the students but their credits. -/
  insert_listing : ∀ session scope,
    (memory.insert (.taskSession session)).fetch .student scope =
      (memory.fetch .student scope).map fun student =>
        { student with credits := (memory.insert (.taskSession session)).credits student.id }
  insert_other : ∀ session studentId, studentId ≠ session.studentId →
    (memory.insert (.taskSession session)).credits studentId = memory.credits studentId
  insert_uncounted : ∀ session,
    (¬ IsFirstSolution memory.taskSessions session ∨
      ∀ task ∈ memory.tasks, ∀ level ∈ memory.levels, task.levelId = level.id →
        task.id ≠ session.taskId) →
    (memory.insert (.taskSession session)).credits session.studentId =
      memory.credits session.studentId
  insert_counted : ∀ session, IsFirstSolution memory.taskSessions session →
    ∀ task ∈ memory.tasks, ∀ level ∈ memory.levels, task.levelId = level.id →
      task.id = session.taskId →
    (memory.insert (.taskSession session)).credits session.studentId =
      memory.credits session.studentId + Int64.ofInt level.credits.toInt
  erase_listing : ∀ sessionId scope,
    (memory.eraseTaskSession sessionId).fetch .student scope =
      (memory.fetch .student scope).map fun student =>
        { student with credits := (memory.eraseTaskSession sessionId).credits student.id }
  /-- What only the erased sessions have solved counts no longer. -/
  erase : ∀ sessionId studentId,
    (memory.eraseTaskSession sessionId).credits studentId =
      memory.credits studentId - Int64.ofInt (creditSum
        {pair ∈ memory.creditedTasks studentId |
          SolvedOnlyBy memory.taskSessions studentId pair.1.id sessionId})

namespace HasTaskKeys

variable (keys : memory.HasTaskKeys)
include keys

theorem insert (session : TaskSession) :
    (memory.insert (.taskSession session)).HasTaskKeys where
  tasks := keys.tasks
  levels := keys.levels

theorem eraseTaskSession (sessionId : Int64) :
    (memory.eraseTaskSession sessionId).HasTaskKeys where
  tasks := keys.tasks
  levels := keys.levels

/-- Credits stay as they are if the same tasks remain solved. -/
theorem credits_insert_of_not {session : TaskSession} {studentId : Int64}
    (uncounted : ∀ task ∈ memory.tasks, ∀ level ∈ memory.levels, task.levelId = level.id →
      studentId ≠ session.studentId ∨ task.id ≠ session.taskId ∨
        ¬ IsFirstSolution memory.taskSessions session) :
    (memory.insert (.taskSession session)).credits studentId = memory.credits studentId := by
  have sameTasks : (memory.insert (.taskSession session)).creditedTasks studentId =
      memory.creditedTasks studentId := by
    ext ⟨task, level⟩
    simp only [creditedTasks, mem_creditedTasks_iff]
    refine and_congr_right fun isTask => and_congr_right fun isLevel =>
      and_congr_right fun belongs => ?_
    exact hasSolved_append_of_not (uncounted task isTask level isLevel belongs)
  rw [(keys.insert session).credits_eq, keys.credits_eq, sameTasks]

theorem creditsFollow : memory.CreditsFollow where
  listed scope student isListed := by
    obtain ⟨entered, _, rfl⟩ := List.mem_map.mp isListed
    rfl
  counted := keys.credits_eq
  added _ := rfl
  inRange few studentId := by
    have fewLevels (count : Nat) :
        ((memory.creditedLevels studentId).take count).length < 4294967296 :=
      ((List.length_take_le' _ _).trans (memory.length_creditedLevels_le studentId)).trans_lt few
    have whole := levelSum_inRange
      ((memory.length_creditedLevels_le studentId).trans_lt few)
    rw [keys.levelSum_creditedLevels] at whole
    refine ⟨fun count => levelSum_inRange (fewLevels count), ?_⟩
    rw [keys.credits_eq]
    exact Int64.toInt_ofInt_of_le whole.1 (Int.lt_add_one_iff.mpr whole.2)
  insert_listing session scope := by
    change (byId _ scope memory.students).map _ = ((byId _ scope memory.students).map _).map _
    rw [List.map_map]
    rfl
  insert_other session studentId different :=
    keys.credits_insert_of_not fun _ _ _ _ _ => .inl different
  insert_uncounted session uncounted := by
    refine keys.credits_insert_of_not fun task isTask level isLevel belongs => ?_
    rcases uncounted with notFirst | noTask
    · exact .inr (.inr notFirst)
    · exact .inr (.inl (noTask task isTask level isLevel belongs))
  insert_counted session isFirst task isTask level isLevel belongs isOfTask := by
    rw [(keys.insert session).credits_eq, keys.credits_eq, ← Int64.ofInt_add]
    exact congrArg Int64.ofInt
      (creditSum_append keys.tasks keys.levels isTask isLevel belongs isOfTask isFirst)
  erase_listing sessionId scope := by
    change (byId _ scope memory.students).map _ = ((byId _ scope memory.students).map _).map _
    rw [List.map_map]
    rfl
  erase sessionId studentId := by
    rw [(keys.eraseTaskSession sessionId).credits_eq, keys.credits_eq, ← Int64.ofInt_sub]
    exact congrArg Int64.ofInt (creditSum_filter sessionId)

end HasTaskKeys

end Memory

namespace Schema.Tables

variable {tables : Tables}

def creditedTasks (tables : Tables) (studentId : Int64) : Finset (StoredTask × StoredLevel) :=
  LearnExport.creditedTasks (tables.rows .taskSessions) (tables.rows .tasks)
    (tables.rows .levels) studentId

theorem credits_of_mem_listing {student : Student} {scope : Scope}
    (isListed : student ∈ tables.listing .student scope) :
    student.credits = tables.credits student.id := by
  have isRecord := (List.mem_filter.mp ((sortedByRank_perm _ _).mem_iff.mp isListed)).1
  obtain ⟨row, _, rfl⟩ := List.mem_map.mp isRecord
  rfl

namespace Consistent

variable (consistent : tables.Consistent)
include consistent

theorem hasTaskKeys_ofTables : (Memory.ofTables tables).HasTaskKeys where
  tasks := consistent.keys_nodup .tasks
  levels := consistent.keys_nodup .levels

theorem credits_ofTables (studentId : Int64) :
    (Memory.ofTables tables).credits studentId = tables.credits studentId :=
  (Memory.holds_ofTables consistent).credits_eq consistent studentId

end Consistent

end Schema.Tables

/-- In a memory where no two tasks and no two levels have the same id, the credits of students
follow from what their sessions have solved; and the tables that insertions and deletions
lead to list students with the credits that are counted in the same way. -/
theorem credits_count_solved_tasks :
    (∀ memory : Memory, memory.HasTaskKeys → memory.CreditsFollow) ∧
    ∀ (tables : Tables) (loading : RelationLoading) (scope : Scope), tables.Reachable →
      ∃ students,
        ((Database.ofTables tables).toStore loading).fetch .student scope = .ok students ∧
        ∀ student ∈ students,
          student.credits = Int64.ofInt (creditSum (tables.creditedTasks student.id)) ∧
          ((tables.rows .tasks).length < 2 ^ 32 →
            student.credits.toInt = creditSum (tables.creditedTasks student.id)) := by
  refine ⟨fun _ keys => keys.creditsFollow, fun tables loading scope reachable => ?_⟩
  have consistent := reachable.consistent
  have follow := consistent.hasTaskKeys_ofTables.creditsFollow
  refine ⟨_, Database.fetch_ofTables consistent loading .student scope, fun student isListed => ?_⟩
  rw [Tables.credits_of_mem_listing isListed, ← consistent.credits_ofTables]
  exact ⟨follow.counted student.id, fun few => (follow.inRange few student.id).2⟩

/-- A student with sessions of the same id and of the same task, of a task that there is not
and of one without a level; another session is of nobody. -/
def busyMemory : Memory :=
  Memory.empty.insertAll
    [.level ⟨1, 1, "first", 5, 1⟩, .level ⟨2, 2, "second", -3, 1⟩,
      .task ⟨1, "turn", 1, "", ""⟩, .task ⟨2, "return", 1, "", ""⟩,
      .task ⟨3, "repeat", 2, "", ""⟩, .task ⟨4, "lost", 9, "", ""⟩, .student ⟨1, []⟩,
      .taskSession ⟨1, 1, 1, true, .epoch, none⟩, .taskSession ⟨1, 1, 1, true, .epoch, none⟩,
      .taskSession ⟨2, 1, 3, true, .epoch, none⟩, .taskSession ⟨1, 1, 3, false, .epoch, none⟩,
      .taskSession ⟨3, 1, 8, true, .epoch, none⟩, .taskSession ⟨4, 1, 4, true, .epoch, none⟩,
      .taskSession ⟨5, 7, 2, true, .epoch, none⟩]

/-- That student and the course in tables are such cases. -/
theorem credits_count_of_busyMemory :
    busyMemory.HasTaskKeys ∧ busyMemory.CreditsFollow ∧ busyMemory.credits 1 = 2 ∧
    courseTables.Reachable ∧
    ∃ students,
      ((Database.ofTables courseTables).toStore .batched).fetch .student .all = .ok students ∧
      ∀ student ∈ students,
        student.credits = Int64.ofInt (creditSum (courseTables.creditedTasks student.id)) ∧
        ((courseTables.rows .tasks).length < 2 ^ 32 →
          student.credits.toInt = creditSum (courseTables.creditedTasks student.id)) := by
  have keys : busyMemory.HasTaskKeys := ⟨by decide, by decide⟩
  exact ⟨keys, credits_count_solved_tasks.1 busyMemory keys, by decide, reachable_courseTables,
    credits_count_solved_tasks.2 courseTables .batched .all reachable_courseTables⟩

end LearnExport
