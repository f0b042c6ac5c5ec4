import LearnExport.Proofs.Record.StableOrder
import LearnExport.Store.Memory

/-!
# What the memory lists

A fetch chooses among the entered records, sorts them by id, joins them with the
records they refer to and may sort them again. The steps can be taken in another
order: a fetch lists the joined records whose ids are asked for, sorted once by
the order of their entity.
-/

namespace LearnExport

/-- Sorting by id makes no difference to the final order of an entity, because
that order determines ids. -/
theorem Entity.idRank_of_rank_eq (entity : Entity) {first second : entity.Record}
    (same : entity.rank first = entity.rank second) :
    idRank (entity.recordId first) = idRank (entity.recordId second) := by
  have sameId := congrArg Rank.id same
  rw [Entity.rank_id, Entity.rank_id] at sameId
  simp only [idRank, sameId]

namespace Memory

/-- The records of an entity, joined with what they refer to, in the order of
entry. -/
def records (memory : Memory) : (entity : Entity) → List entity.Record
  | .block => memory.blocks
  | .toolbox => memory.toolboxes.map memory.joinToolbox
  | .level => memory.levels.filterMap memory.joinLevel?
  | .instruction => memory.instructions
  | .task => memory.tasks.filterMap memory.joinTask?
  | .student => memory.students.map memory.joinStudent
  | .taskSession => memory.taskSessions
  | .programSnapshot => memory.programSnapshots
  | .action => memory.actions

/-- Joining records after they were chosen and sorted by id lists the joined
records whose ids are asked for. -/
theorem filterMap_byId {α β : Type} {id : α → Int64} (newId : β → Int64)
    {join? : α → Option β} (sameId : ∀ entered record, join? entered = some record →
      newId record = id entered) (scope : Scope) (entered : List α) :
    (byId id scope entered).filterMap join? = byId newId scope (entered.filterMap join?) := by
  have chosen : (entered.filterMap join?).filter (fun record => scope.includes (newId record)) =
      (entered.filter fun record => scope.includes (id record)).filterMap join? := by
    apply filter_filterMap_of_agrees
    intro record result joined
    rw [sameId record result joined]
  rw [byId, byId, chosen]
  apply filterMap_sortedByRank
  intro record result joined
  rw [sameId record result joined]

theorem map_byId {α β : Type} {id : α → Int64} (newId : β → Int64) {join : α → β}
    (sameId : ∀ entered, newId (join entered) = id entered) (scope : Scope) (entered : List α) :
    (byId id scope entered).map join = byId newId scope (entered.map join) := by
  rw [← congrFun List.filterMap_eq_map, ← congrFun List.filterMap_eq_map]
  apply filterMap_byId
  intro record result joined
  rw [← Option.some.inj joined]
  exact sameId record

/-- Sorting by id first makes no difference to an entity's own order. -/
theorem sorted_byId (entity : Entity) (scope : Scope) (records : List entity.Record) :
    entity.sorted (byId entity.recordId scope records) =
      entity.sorted (records.filter fun record => scope.includes (entity.recordId record)) :=
  sortedByRank_sortedByRank (fun _ _ => entity.idRank_of_rank_eq) _

/-- What the memory lists for an entity: the joined records whose ids are asked
for, in the order of the entity. -/
theorem fetch_eq_sorted (memory : Memory) (entity : Entity) (scope : Scope) :
    memory.fetch entity scope = entity.sorted ((memory.records entity).filter fun record =>
      scope.includes (entity.recordId record)) := by
  cases entity with
  | block => exact sorted_byId .block scope memory.blocks
  | toolbox => exact map_byId Entity.toolbox.recordId (fun _ => rfl) scope _
  | level =>
      have joined : (byId (·.id) scope memory.levels).filterMap memory.joinLevel? =
          byId Entity.level.recordId scope (memory.levels.filterMap memory.joinLevel?) := by
        apply filterMap_byId
        intro entered record found
        obtain ⟨toolbox, _, rfl⟩ := Option.map_eq_some_iff.mp found
        rfl
      rw [fetch, joined]
      exact sorted_byId .level scope _
  | instruction => rfl
  | task =>
      apply filterMap_byId Entity.task.recordId
      intro entered record found
      obtain ⟨level, _, rfl⟩ := Option.map_eq_some_iff.mp found
      rfl
  | student => exact map_byId Entity.student.recordId (fun _ => rfl) scope _
  | taskSession => rfl
  | programSnapshot => rfl
  | action => rfl

end Memory

end LearnExport
