import LearnExport.Proofs.Schema.UniqueKeys
import LearnExport.Proofs.Store.MemoryListing

/-!
# What has been entered into memory

Whatever is entered is kept in the list of its entity, after what was entered there
before. So the lists of a memory can be read off the entries that led to it, entity
by entity, and the records that it lists are made of these lists one by one.
-/

namespace LearnExport

namespace Entity

/-- What is entered for a record of an entity. -/
abbrev Entered : Entity → Type
  | block => Block
  | toolbox => EnteredToolbox
  | level => StoredLevel
  | instruction => Instruction
  | task => StoredTask
  | student => EnteredStudent
  | taskSession => TaskSession
  | programSnapshot => ProgramSnapshot
  | action => Action

def enteredId : (entity : Entity) → entity.Entered → Int64
  | block, entered => entered.id
  | toolbox, entered => entered.id
  | level, entered => entered.id
  | instruction, entered => entered.id
  | task, entered => entered.id
  | student, entered => entered.id
  | taskSession, entered => entered.id
  | programSnapshot, entered => entered.id
  | action, entered => entered.id

end Entity

namespace Memory

namespace Entry

/-- What an entry enters for an entity, if it is an entry for this entity. -/
def entered? : (entity : Entity) → Entry → Option entity.Entered
  | .block, block entered => some entered
  | .toolbox, toolbox entered => some entered
  | .level, level entered => some entered
  | .instruction, instruction entered => some entered
  | .task, task entered => some entered
  | .student, student entered => some entered
  | .taskSession, taskSession entered => some entered
  | .programSnapshot, programSnapshot entered => some entered
  | .action, action entered => some entered
  | _, _ => none

def token? : Entry → Option (String × Principal)
  | token key owner => some (key, owner)
  | _ => none

end Entry

/-- What has been entered for an entity, in the order of entry. -/
def entered (memory : Memory) : (entity : Entity) → List entity.Entered
  | .block => memory.blocks
  | .toolbox => memory.toolboxes
  | .level => memory.levels
  | .instruction => memory.instructions
  | .task => memory.tasks
  | .student => memory.students
  | .taskSession => memory.taskSessions
  | .programSnapshot => memory.programSnapshots
  | .action => memory.actions

theorem entered_insert (memory : Memory) (entry : Entry) (entity : Entity) :
    (memory.insert entry).entered entity =
      memory.entered entity ++ (entry.entered? entity).toList := by
  cases entity <;> cases entry <;> first | rfl | exact (List.append_nil _).symm

theorem tokens_insert (memory : Memory) (entry : Entry) :
    (memory.insert entry).tokens = entry.token?.toList ++ memory.tokens := by
  cases entry <;> rfl

/-- Entering a list of entries adds what each of them enters for an entity. -/
theorem entered_insertAll (memory : Memory) (entries : List Entry) (entity : Entity) :
    (memory.insertAll entries).entered entity =
      memory.entered entity ++ entries.filterMap (Entry.entered? entity) := by
  induction entries generalizing memory with
  | nil => exact (List.append_nil _).symm
  | cons entry others ih =>
      have enteredOthers := ih (memory.insert entry)
      rw [entered_insert, List.append_assoc] at enteredOthers
      rw [List.filterMap_cons]
      cases added : entry.entered? entity <;> rw [added] at enteredOthers <;> exact enteredOthers

theorem entered_insertAll_empty (entries : List Entry) (entity : Entity) :
    (empty.insertAll entries).entered entity = entries.filterMap (Entry.entered? entity) := by
  rw [entered_insertAll]
  cases entity <;> rfl

theorem tokens_insertAll (memory : Memory) (entries : List Entry) :
    (memory.insertAll entries).tokens =
      (entries.filterMap Entry.token?).reverse ++ memory.tokens := by
  induction entries generalizing memory with
  | nil => rfl
  | cons entry others ih =>
      have enteredOthers := ih (memory.insert entry)
      rw [tokens_insert] at enteredOthers
      rw [List.filterMap_cons]
      cases added : entry.token? with
      | none =>
          rw [added] at enteredOthers
          exact enteredOthers
      | some token =>
          rw [added] at enteredOthers
          rw [List.reverse_cons, List.append_assoc]
          exact enteredOthers

theorem tokens_insertAll_empty (entries : List Entry) :
    (empty.insertAll entries).tokens = (entries.filterMap Entry.token?).reverse :=
  (tokens_insertAll empty entries).trans (List.append_nil _)

/-- The record that is listed for what was entered, if what it refers to exists. -/
def join? (memory : Memory) : (entity : Entity) → entity.Entered → Option entity.Record
  | .block, entered => some entered
  | .toolbox, entered => some (memory.joinToolbox entered)
  | .level, entered => memory.joinLevel? entered
  | .instruction, entered => some entered
  | .task, entered => memory.joinTask? entered
  | .student, entered => some (memory.joinStudent entered)
  | .taskSession, entered => some entered
  | .programSnapshot, entered => some entered
  | .action, entered => some entered

theorem records_eq_filterMap (memory : Memory) (entity : Entity) :
    memory.records entity = (memory.entered entity).filterMap (memory.join? entity) := by
  cases entity with
  | level | task => rfl
  | toolbox | student => exact (congrFun List.filterMap_eq_map _).symm
  | block | instruction | taskSession | programSnapshot | action => exact List.filterMap_some.symm

theorem recordId_of_join? {memory : Memory} {entity : Entity} {entered : entity.Entered}
    {record : entity.Record} (joined : memory.join? entity entered = some record) :
    entity.recordId record = entity.enteredId entered := by
  cases entity with
  | level | task =>
      obtain ⟨_, _, rfl⟩ := Option.map_eq_some_iff.mp joined
      rfl
  | block | toolbox | instruction | student | taskSession | programSnapshot | action =>
      rw [← Option.some.inj joined]
      rfl

/-- That no two records of an entity have been entered with the same id. -/
def UniqueIds (memory : Memory) : Prop :=
  ∀ entity, ((memory.entered entity).map entity.enteredId).Nodup

theorem UniqueIds.nodup_recordIds {memory : Memory} (unique : memory.UniqueIds)
    (entity : Entity) : ((memory.records entity).map entity.recordId).Nodup := by
  rw [memory.records_eq_filterMap]
  exact nodup_map_filterMap _ (fun _ _ => recordId_of_join?) (unique entity)

end Memory

end LearnExport
