import LearnExport.Proofs.Store.Entries
import LearnExport.Proofs.Store.Holding

/-!
# The order of entry

As long as no id and no token is entered twice, nobody can tell from a memory in which
order its records were entered, nor in which order the ids were given that came with
a toolbox or a student. References find the same records, sums do not depend on the
order of what they sum up, and every list that is answered is sorted by a rank that
tells its records apart.
-/

namespace LearnExport

/-- That two records are entered alike, up to the order of the ids entered with
them. -/
def Entity.Alike : (entity : Entity) → entity.Entered → entity.Entered → Prop
  | block, first, second => first = second
  | toolbox, first, second =>
      first.id = second.id ∧ first.name = second.name ∧ first.blockIds.Perm second.blockIds
  | level, first, second => first = second
  | instruction, first, second => first = second
  | task, first, second => first = second
  | student, first, second => first.id = second.id ∧ first.seenIds.Perm second.seenIds
  | taskSession, first, second => first = second
  | programSnapshot, first, second => first = second
  | action, first, second => first = second

namespace Memory

namespace Entry

/-- What must not be entered twice. -/
inductive Key where
  | record (entity : Entity) (id : Int64)
  | token (key : String)
deriving DecidableEq, Repr

def key : Entry → Key
  | block entered => .record .block entered.id
  | toolbox entered => .record .toolbox entered.id
  | level entered => .record .level entered.id
  | instruction entered => .record .instruction entered.id
  | task entered => .record .task entered.id
  | student entered => .record .student entered.id
  | taskSession entered => .record .taskSession entered.id
  | programSnapshot entered => .record .programSnapshot entered.id
  | action entered => .record .action entered.id
  | token key _ => .token key

/-- That two entries are the same up to the order of the ids in them. -/
inductive Alike : Entry → Entry → Prop
  | refl (entry : Entry) : Alike entry entry
  | toolbox (id : Int64) (name : String) {blockIds others : List Int64}
      (rearranged : blockIds.Perm others) :
      Alike (.toolbox ⟨id, name, blockIds⟩) (.toolbox ⟨id, name, others⟩)
  | student (id : Int64) {seenIds others : List Int64} (rearranged : seenIds.Perm others) :
      Alike (.student ⟨id, seenIds⟩) (.student ⟨id, others⟩)

theorem Alike.entered? {first second : Entry} (alike : first.Alike second) (entity : Entity) :
    Option.Rel entity.Alike (first.entered? entity) (second.entered? entity) := by
  cases alike with
  | refl =>
      cases first.entered? entity with
      | none => exact .none
      | some entered => exact .some (by cases entity <;> simp [Entity.Alike])
  | toolbox id name rearranged =>
      cases entity <;> first | exact .none | exact .some ⟨rfl, rfl, rearranged⟩
  | student id rearranged =>
      cases entity <;> first | exact .none | exact .some ⟨rfl, rearranged⟩

theorem Alike.token?_eq {first second : Entry} (alike : first.Alike second) :
    first.token? = second.token? := by
  cases alike <;> rfl

theorem key_of_entered? {entity : Entity} {entry : Entry} {entered : entity.Entered}
    (isEntered : entry.entered? entity = some entered) :
    Key.record entity (entity.enteredId entered) = entry.key := by
  cases entity <;> cases entry <;> cases isEntered <;> rfl

theorem key_of_token? {entry : Entry} {token : String × Principal}
    (isToken : entry.token? = some token) : Key.token token.1 = entry.key := by
  cases entry <;> cases isToken
  rfl

/-- That entries are the same as others up to their order and the order of the ids
in them. -/
def Rearranged (entries others : List Entry) : Prop :=
  ∃ permuted, entries.Perm permuted ∧ List.Forall₂ Alike permuted others

end Entry

private theorem filterMap_eq_of_forall₂ {α β γ : Type} {alike : α → β → Prop} {turn : α → Option γ}
    {other : β → Option γ} (agree : ∀ first second, alike first second → turn first = other second)
    {list : List α} {another : List β} (same : List.Forall₂ alike list another) :
    list.filterMap turn = another.filterMap other := by
  induction same with
  | nil => rfl
  | cons areAlike _ ih =>
      rw [List.filterMap_cons, List.filterMap_cons, agree _ _ areAlike, ih]

/-- That two memories have been given the same up to order. -/
structure SameEntries (first second : Memory) : Prop where
  entered (entity : Entity) : ∃ permuted,
    (first.entered entity).Perm permuted ∧
      List.Forall₂ entity.Alike permuted (second.entered entity)
  tokens : first.tokens.Perm second.tokens

namespace SameEntries

variable {first second : Memory} (same : first.SameEntries second)
include same

/-- What is made of what has been entered is the same up to order, if it is made
alike of what was entered alike. -/
theorem filterMap_perm (entity : Entity) {α : Type} {turn other : entity.Entered → Option α}
    (agree : ∀ entered another, entity.Alike entered another → turn entered = other another) :
    ((first.entered entity).filterMap turn).Perm ((second.entered entity).filterMap other) := by
  obtain ⟨permuted, rearranged, alike⟩ := same.entered entity
  rw [← filterMap_eq_of_forall₂ agree alike]
  exact rearranged.filterMap turn

theorem map_perm (entity : Entity) {α : Type} {turn other : entity.Entered → α}
    (agree : ∀ entered another, entity.Alike entered another → turn entered = other another) :
    ((first.entered entity).map turn).Perm ((second.entered entity).map other) := by
  rw [← congrFun List.filterMap_eq_map, ← congrFun List.filterMap_eq_map]
  exact same.filterMap_perm entity fun entered another alike =>
    congrArg some (agree entered another alike)

/-- Of entities whose records are entered without lists of ids, the same has been
entered up to order. -/
theorem entered_perm (entity : Entity)
    (isPlain : ∀ entered another, entity.Alike entered another → entered = another) :
    (first.entered entity).Perm (second.entered entity) := by
  have rearranged := same.map_perm entity isPlain
  rwa [List.map_id', List.map_id'] at rearranged

theorem enteredIds_perm (entity : Entity) :
    ((first.entered entity).map entity.enteredId).Perm
      ((second.entered entity).map entity.enteredId) := by
  refine same.map_perm entity fun entered another alike => ?_
  cases entity with
  | toolbox | student => exact alike.1
  | block | level | instruction | task | taskSession | programSnapshot | action =>
      exact congrArg _ alike

theorem blocks_perm : first.blocks.Perm second.blocks :=
  same.entered_perm .block fun _ _ => id

theorem levels_perm : first.levels.Perm second.levels :=
  same.entered_perm .level fun _ _ => id

theorem instructions_perm : first.instructions.Perm second.instructions :=
  same.entered_perm .instruction fun _ _ => id

theorem tasks_perm : first.tasks.Perm second.tasks :=
  same.entered_perm .task fun _ _ => id

theorem taskSessions_perm : first.taskSessions.Perm second.taskSessions :=
  same.entered_perm .taskSession fun _ _ => id

theorem toolboxes_perm :
    (first.toolboxes.map EnteredToolbox.related).Perm
      (second.toolboxes.map EnteredToolbox.related) := by
  refine same.map_perm .toolbox fun entered another alike => ?_
  rw [EnteredToolbox.related, EnteredToolbox.related, alike.1, alike.2.1]

section

variable (unique : second.UniqueIds)
include unique

theorem block?_eq (id : Int64) : first.block? id = second.block? id :=
  find?_key_eq_of_perm same.blocks_perm (unique .block) id

theorem level?_eq (id : Int64) : first.level? id = second.level? id :=
  find?_key_eq_of_perm same.levels_perm (unique .level) id

theorem toolbox?_eq (id : Int64) :
    (first.toolbox? id).map EnteredToolbox.related =
      (second.toolbox? id).map EnteredToolbox.related := by
  have distinct : ((second.toolboxes.map EnteredToolbox.related).map Related.id).Nodup := by
    rw [List.map_map]
    exact unique .toolbox
  have found := find?_key_eq_of_perm same.toolboxes_perm distinct id
  rw [List.find?_map, List.find?_map] at found
  exact found

/-- The blocks of a toolbox are sorted by ranks that tell them apart, however often
and in whatever order their ids were given. -/
theorem blocksOf_eq {toolbox other : EnteredToolbox} (alike : Entity.toolbox.Alike toolbox other) :
    first.blocksOf toolbox = second.blocksOf other := by
  have sameLookup : first.block? = second.block? := funext (same.block?_eq unique)
  have found {block : Block} (member : block ∈ toolbox.blockIds.filterMap second.block?) :
      block ∈ second.blocks := by
    obtain ⟨id, _, isBlock⟩ := List.mem_filterMap.mp member
    exact List.mem_of_find?_eq_some isBlock
  rw [blocksOf, blocksOf, sameLookup]
  congr 1
  -- The same id may have been given twice, so it is not the list that has different ids.
  refine sortedByRank_eq_of_perm (alike.2.2.filterMap _) fun block member another isOther rank => ?_
  exact List.inj_on_of_nodup_map (unique .block) (found member) (found isOther)
    (Int64.toInt_inj.mp (congrArg Rank.id rank))

theorem tasksOf_eq (levelId : Int64) : first.tasksOf levelId = second.tasksOf levelId := by
  refine sortedByRank_eq_of_nodup_ids Related.id (fun _ => rfl)
    ((same.tasks_perm.filter _).map StoredTask.related) ?_
  rw [List.map_map]
  exact (unique .task).sublist (List.filter_sublist.map _)

theorem seenBy_eq {student other : EnteredStudent} (alike : Entity.student.Alike student other) :
    first.seenBy student = second.seenBy other := by
  have sameSeen (id : Int64) : student.seenIds.contains id = other.seenIds.contains id :=
    alike.2.contains_eq
  simp only [seenBy, sameSeen]
  refine sortedByRank_eq_of_nodup_ids Related.id (fun _ => rfl)
    ((same.instructions_perm.filter _).map Instruction.related) ?_
  rw [List.map_map]
  exact (unique .instruction).sublist (List.filter_sublist.map _)

theorem credits_eq (studentId : Int64) : first.credits studentId = second.credits studentId := by
  have sameSolved (taskId : Int64) : (first.solvedTaskIds studentId).contains taskId =
      (second.solvedTaskIds studentId).contains taskId :=
    ((same.taskSessions_perm.filter _).map _).contains_eq
  simp only [credits, sameSolved, same.level?_eq unique]
  exact totalCredits_eq_of_perm ((same.tasks_perm.filter _).filterMap _)

/-- What was entered alike is joined to the same record. -/
theorem join?_eq (entity : Entity) {entered another : entity.Entered}
    (alike : entity.Alike entered another) :
    first.join? entity entered = second.join? entity another := by
  cases entity with
  | toolbox =>
      simp only [join?, joinToolbox, same.blocksOf_eq unique alike, alike.1, alike.2.1]
  | level =>
      obtain rfl : entered = another := alike
      have joined := congrArg (Option.map fun toolbox =>
        entered.withRelations toolbox (second.tasksOf entered.id))
        (same.toolbox?_eq unique entered.toolboxId)
      rw [Option.map_map, Option.map_map] at joined
      simp only [join?, joinLevel?, same.tasksOf_eq unique]
      exact joined
  | task =>
      obtain rfl : entered = another := alike
      simp only [join?, joinTask?, same.level?_eq unique]
  | student =>
      simp only [join?, joinStudent, same.seenBy_eq unique alike, same.credits_eq unique, alike.1]
  | block | instruction | taskSession | programSnapshot | action => exact congrArg some alike

theorem fetch_eq (entity : Entity) (scope : Scope) :
    first.fetch entity scope = second.fetch entity scope := by
  have sameRecords : (first.records entity).Perm (second.records entity) := by
    rw [records_eq_filterMap, records_eq_filterMap]
    exact same.filterMap_perm entity fun _ _ => same.join?_eq unique entity
  rw [fetch_eq_sorted, fetch_eq_sorted]
  refine sortedByRank_eq_of_nodup_ids entity.recordId entity.rank_id (sameRecords.filter _) ?_
  exact (unique.nodup_recordIds entity).sublist (List.filter_sublist.map _)

/-- The labels of an entity are the same up to order, if it has labels at all. -/
theorem labelled?_rel (entity : Entity) :
    Option.Rel (fun entered another => entered.Perm another ∧ (another.map Related.id).Nodup)
      (first.labelled? entity) (second.labelled? entity) := by
  cases entity with
  | block =>
      refine .some ⟨same.blocks_perm.map Block.related, ?_⟩
      rw [List.map_map]
      exact unique .block
  | toolbox =>
      refine .some ⟨same.toolboxes_perm, ?_⟩
      rw [List.map_map]
      exact unique .toolbox
  | level =>
      refine .some ⟨same.levels_perm.map StoredLevel.related, ?_⟩
      rw [List.map_map]
      exact unique .level
  | instruction =>
      refine .some ⟨same.instructions_perm.map Instruction.related, ?_⟩
      rw [List.map_map]
      exact unique .instruction
  | task =>
      refine .some ⟨same.tasks_perm.map StoredTask.related, ?_⟩
      rw [List.map_map]
      exact unique .task
  | student | taskSession | programSnapshot | action => exact .none

theorem idsLabelled_eq (entity : Entity) (label : String) :
    first.idsLabelled entity label = second.idsLabelled entity label := by
  have sameLabels := same.labelled?_rel unique entity
  rw [idsLabelled, idsLabelled]
  generalize first.labelled? entity = entered? at sameLabels
  generalize second.labelled? entity = another? at sameLabels
  cases sameLabels with
  | none => rfl
  | @some entered another sameLabels =>
      obtain ⟨rearranged, distinct⟩ := sameLabels
      have sameSorted :
          sortedByRank Related.rank (entered.filter fun record => record.name == label) =
            sortedByRank Related.rank (another.filter fun record => record.name == label) :=
        sortedByRank_eq_of_nodup_ids Related.id (fun _ => rfl) (rearranged.filter _)
          (distinct.sublist (List.filter_sublist.map _))
      simp only [sameSorted]

end

theorem principal?_eq (distinct : (second.tokens.map Prod.fst).Nodup) (token : String) :
    first.principal? token = second.principal? token := by
  have found := find?_key_eq_of_perm same.tokens distinct token
  have lookedUp (memory : Memory) := lookup_map_key Prod.fst Prod.snd memory.tokens token
  simp only [Prod.mk.eta, List.map_id'] at lookedUp
  rw [principal?, principal?, lookedUp, lookedUp, found]

end SameEntries

namespace Entry

variable {entries others : List Entry}

theorem Rearranged.sameEntries (rearranged : Rearranged entries others) :
    (empty.insertAll entries).SameEntries (empty.insertAll others) := by
  obtain ⟨permuted, perm, alike⟩ := rearranged
  constructor
  · intro entity
    rw [entered_insertAll_empty, entered_insertAll_empty]
    exact ⟨permuted.filterMap (entered? entity), perm.filterMap _,
      List.rel_filterMap (fun _ _ areAlike => areAlike.entered? entity) alike⟩
  · have sameTokens : permuted.filterMap token? = others.filterMap token? :=
      filterMap_eq_of_forall₂ (fun _ _ areAlike => areAlike.token?_eq) alike
    rw [tokens_insertAll_empty, tokens_insertAll_empty, ← sameTokens]
    exact ((List.reverse_perm _).trans (perm.filterMap token?)).trans (List.reverse_perm _).symm

theorem uniqueIds_of_nodup_keys (distinct : (entries.map key).Nodup) :
    (empty.insertAll entries).UniqueIds := by
  intro entity
  have keys : ((entries.filterMap (entered? entity)).map fun entered =>
      Key.record entity (entity.enteredId entered)).Nodup :=
    nodup_map_filterMap key (fun _ _ => key_of_entered?) distinct
  rw [entered_insertAll_empty]
  refine List.Nodup.of_map (Key.record entity) ?_
  rwa [List.map_map]

theorem nodup_tokens_of_nodup_keys (distinct : (entries.map key).Nodup) :
    ((empty.insertAll entries).tokens.map Prod.fst).Nodup := by
  have keys : ((entries.filterMap token?).map fun token => Key.token token.1).Nodup :=
    nodup_map_filterMap key (fun _ _ => key_of_token?) distinct
  rw [tokens_insertAll_empty, List.map_reverse, List.nodup_reverse]
  refine List.Nodup.of_map Key.token ?_
  rwa [List.map_map]

end Entry

/-- Entries of which no two have the same id or the same token give the same answers in
every order, also where their references lead nowhere or their names are repeated. -/
theorem toStore_eq_of_rearranged {entries others : List Entry}
    (rearranged : Entry.Rearranged entries others) (distinct : (entries.map Entry.key).Nodup) :
    (empty.insertAll entries).toStore = (empty.insertAll others).toStore := by
  have same := rearranged.sameEntries
  have unique : (empty.insertAll others).UniqueIds := fun entity =>
    (same.enteredIds_perm entity).nodup_iff.mp (Entry.uniqueIds_of_nodup_keys distinct entity)
  have distinctTokens : ((empty.insertAll others).tokens.map Prod.fst).Nodup :=
    (same.tokens.map Prod.fst).nodup_iff.mp (Entry.nodup_tokens_of_nodup_keys distinct)
  have sameFetch : (empty.insertAll entries).fetch = (empty.insertAll others).fetch :=
    funext fun entity => funext fun scope => same.fetch_eq unique entity scope
  have sameIds : (empty.insertAll entries).idsLabelled = (empty.insertAll others).idsLabelled :=
    funext fun entity => funext fun label => same.idsLabelled_eq unique entity label
  have samePrincipal : (empty.insertAll entries).principal? = (empty.insertAll others).principal? :=
    funext fun token => same.principal?_eq distinctTokens token
  rw [toStore, toStore, sameFetch, sameIds, samePrincipal]

/-- Two blocks of one name, a toolbox with a block that there is not, a level without
its toolbox, and a student. -/
def looseEntries : List Entry :=
  [.block ⟨1, "repeat", 0⟩, .block ⟨2, "repeat", 0⟩, .toolbox ⟨1, "loops", [1, 9, 2]⟩,
    .level ⟨1, 3, "first", 5, 1⟩, .level ⟨2, 3, "first", 5, 7⟩, .task ⟨1, "turn", 1, "", ""⟩,
    .instruction ⟨3, "turning"⟩, .instruction ⟨4, "turning"⟩, .student ⟨1, [4, 3]⟩,
    .taskSession ⟨1, 1, 1, true, .epoch, none⟩,
    .token "t" ⟨"reader", false, .ofList ["learn.view_toolbox"]⟩]

/-- They may be entered in the opposite order, and with other lists of ids. -/
theorem toStore_looseEntries :
    (empty.insertAll looseEntries).toStore =
      (empty.insertAll
        [.token "t" ⟨"reader", false, .ofList ["learn.view_toolbox"]⟩,
          .taskSession ⟨1, 1, 1, true, .epoch, none⟩, .student ⟨1, [3, 4]⟩,
          .instruction ⟨4, "turning"⟩, .instruction ⟨3, "turning"⟩, .task ⟨1, "turn", 1, "", ""⟩,
          .level ⟨2, 3, "first", 5, 7⟩, .level ⟨1, 3, "first", 5, 1⟩,
          .toolbox ⟨1, "loops", [9, 2, 1]⟩, .block ⟨2, "repeat", 0⟩,
          .block ⟨1, "repeat", 0⟩]).toStore := by
  refine toStore_eq_of_rearranged
    ⟨looseEntries.reverse, looseEntries.reverse_perm.symm, ?_⟩ (by decide)
  exact .cons (.refl _) <| .cons (.refl _) <| .cons (.student 1 (by decide)) <|
    .cons (.refl _) <| .cons (.refl _) <| .cons (.refl _) <| .cons (.refl _) <| .cons (.refl _) <|
    .cons (.toolbox 1 "loops" (by decide)) <| .cons (.refl _) <| .cons (.refl _) .nil

end Memory

end LearnExport
