import LearnExport.Proofs.Store.Entries

/-!
# A listing is the joined table in its own order

Whatever has been entered, also with repeated ids and with references that lead nowhere, a
listing shows each entry of its entity as often as it was entered, unless the entry is a level
without a toolbox or a task without a level. The entries are sorted by order or number and then
by id, and where these are equal they stand as they were entered. The related records inside
a record are chosen and sorted in the same way.
-/

namespace LearnExport

/-- That a list has the elements of another one, each as often, sorted by place and then by id,
and that elements with the same place and id stand as they do there. -/
structure StablySorted {α : Type} (rank : α → Rank) (given sorted : List α) : Prop where
  perm : sorted.Perm given
  ordered : sorted.Pairwise fun first second =>
    (rank first).place < (rank second).place ∨
      (rank first).place = (rank second).place ∧ (rank first).id ≤ (rank second).id
  stable : ∀ place, ofRank rank place sorted = ofRank rank place given

def Entity.enteredRank : (entity : Entity) → entity.Entered → Rank
  | block, entered => ⟨entered.order.toInt, entered.id.toInt⟩
  | level, entered => ⟨entered.level.toInt, entered.id.toInt⟩
  | toolbox, entered => ⟨0, entered.id.toInt⟩
  | instruction, entered => ⟨0, entered.id.toInt⟩
  | task, entered => ⟨0, entered.id.toInt⟩
  | student, entered => ⟨0, entered.id.toInt⟩
  | taskSession, entered => ⟨0, entered.id.toInt⟩
  | programSnapshot, entered => ⟨0, entered.id.toInt⟩
  | action, entered => ⟨0, entered.id.toInt⟩

namespace Memory

/-- That a record is the one listed for an entry. -/
def Shows (memory : Memory) : (entity : Entity) → entity.Entered → entity.Record → Prop
  | .toolbox, entered, record => ∃ blocks,
      StablySorted Block.rank (entered.blockIds.filterMap memory.block?) blocks ∧
        record = ⟨entered.id, entered.name, blocks.map Block.related⟩
  | .level, entered, record => ∃ toolbox tasks,
      memory.toolbox? entered.toolboxId = some toolbox ∧
        StablySorted Entity.task.enteredRank
          (memory.tasks.filter fun task => task.levelId == entered.id) tasks ∧
        record = entered.withRelations toolbox.related (tasks.map StoredTask.related)
  | .task, entered, record => ∃ level,
      memory.level? entered.levelId = some level ∧ record = entered.withLevel level.related
  | .student, entered, record => ∃ seen,
      StablySorted Entity.instruction.enteredRank
          (memory.instructions.filter fun instruction => entered.seenIds.contains instruction.id)
          seen ∧
        record = ⟨entered.id, memory.credits entered.id, seen.map Instruction.related⟩
  | .block, entered, record => record = entered
  | .instruction, entered, record => record = entered
  | .taskSession, entered, record => record = entered
  | .programSnapshot, entered, record => record = entered
  | .action, entered, record => record = entered

variable (memory : Memory)

end Memory

end LearnExport
