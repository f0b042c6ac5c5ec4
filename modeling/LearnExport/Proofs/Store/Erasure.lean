import LearnExport.Proofs.Store.Credits

/-!
# Sessions erased from history

Deleting the task sessions with an id leaves what would have been entered if these sessions and
their snapshots had never come up: each change that was made before the deletion either is undone
by it or could have been made after it. So listings show all other records as before, in the same
order and with the same relations, and only the credits of students may change.
-/

namespace LearnExport.Memory

/-- Something that is done to a memory. -/
inductive Change where
  | enter (entry : Entry)
  | erase (sessionId : Int64)
deriving DecidableEq

def change (memory : Memory) : Change → Memory
  | .enter entry => memory.insert entry
  | .erase sessionId => memory.eraseTaskSession sessionId

/-- What some changes lead to, first to last. -/
def changed (memory : Memory) (changes : List Change) : Memory :=
  changes.foldl change memory

@[simp]
theorem changed_nil (memory : Memory) : memory.changed [] = memory := rfl

@[simp]
theorem changed_cons (memory : Memory) (first : Change) (others : List Change) :
    memory.changed (first :: others) = (memory.change first).changed others := rfl

@[simp]
theorem changed_append (memory : Memory) (first second : List Change) :
    memory.changed (first ++ second) = (memory.changed first).changed second :=
  List.foldl_append

/-- Whether a change enters a session with an id or a snapshot of such a session. -/
def Change.concerns (sessionId : Int64) : Change → Bool
  | .enter (.taskSession session) => session.id == sessionId
  | .enter (.programSnapshot snapshot) => snapshot.taskSessionId == sessionId
  | _ => false

section Histories

variable (memory : Memory) (sessionId : Int64)

theorem eraseTaskSession_comm (other : Int64) :
    (memory.eraseTaskSession sessionId).eraseTaskSession other =
      (memory.eraseTaskSession other).eraseTaskSession sessionId := by
  simp [eraseTaskSession, List.filter_filter, Bool.and_comm]

theorem eraseTaskSession_self :
    (memory.eraseTaskSession sessionId).eraseTaskSession sessionId =
      memory.eraseTaskSession sessionId := by
  simp [eraseTaskSession, List.filter_filter]

/-- An entry of the erased session is undone. -/
theorem eraseTaskSession_change_of_concerns {change : Change}
    (concerned : change.concerns sessionId = true) :
    (memory.change change).eraseTaskSession sessionId = memory.eraseTaskSession sessionId := by
  cases change with
  | erase other => contradiction
  | enter entry =>
      cases entry with
      | taskSession session =>
          have isSame : session.id = sessionId := by simpa [Change.concerns] using concerned
          simp [Memory.change, insert, eraseTaskSession, isSame]
      | programSnapshot snapshot =>
          have isSame : snapshot.taskSessionId = sessionId := by
            simpa [Change.concerns] using concerned
          simp [Memory.change, insert, eraseTaskSession, isSame]
      | block | toolbox | level | instruction | task | student | action | token => contradiction

/-- Any other change could as well be made afterwards. -/
theorem eraseTaskSession_change {change : Change}
    (unconcerned : change.concerns sessionId = false) :
    (memory.change change).eraseTaskSession sessionId =
      (memory.eraseTaskSession sessionId).change change := by
  cases change with
  | erase other => exact (memory.eraseTaskSession_comm sessionId other).symm
  | enter entry =>
      cases entry with
      | taskSession session =>
          have isOther : session.id ≠ sessionId := by simpa [Change.concerns] using unconcerned
          simp [Memory.change, insert, eraseTaskSession, isOther]
      | programSnapshot snapshot =>
          have isOther : snapshot.taskSessionId ≠ sessionId := by
            simpa [Change.concerns] using unconcerned
          simp [Memory.change, insert, eraseTaskSession, isOther]
      | block | toolbox | level | instruction | task | student | action | token => rfl

/-- So a deletion can be moved to the start of a history. -/
theorem eraseTaskSession_changed (changes : List Change) :
    (memory.changed changes).eraseTaskSession sessionId =
      (memory.eraseTaskSession sessionId).changed
        (changes.filter fun change => !change.concerns sessionId) := by
  induction changes generalizing memory with
  | nil => rfl
  | cons first others ih =>
      rw [changed_cons, ih]
      cases concerned : first.concerns sessionId with
      | true =>
          rw [eraseTaskSession_change_of_concerns memory sessionId concerned]
          simp [concerned]
      | false =>
          rw [eraseTaskSession_change memory sessionId concerned]
          simp [concerned]

end Histories

theorem byId_filter {α : Type} (id : α → Int64) (scope : Scope) (keep : α → Bool)
    (entered : List α) :
    byId id scope (entered.filter keep) = (byId id scope entered).filter keep := by
  rw [byId, byId, filter_sortedByRank]
  simp only [List.filter_filter, Bool.and_comm]

/-- The credits of a student for the tasks that sessions with other ids have solved. -/
def creditsWithout (memory : Memory) (sessionId studentId : Int64) : Int64 :=
  totalCredits ((memory.tasks.filter fun task =>
    HasSolved (memory.taskSessions.filter fun session => session.id != sessionId) studentId
      task.id).filterMap fun task => memory.level? task.levelId)

/-- That a memory answers like another one without the sessions with an id and without their
snapshots. -/
structure AnswersWithout (erased memory : Memory) (sessionId : Int64) : Prop where
  taskSessions : ∀ scope, erased.fetch .taskSession scope =
    (memory.fetch .taskSession scope).filter fun session => session.id != sessionId
  programSnapshots : ∀ scope, erased.fetch .programSnapshot scope =
    (memory.fetch .programSnapshot scope).filter fun snapshot =>
      snapshot.taskSessionId != sessionId
  students : ∀ scope, erased.fetch .student scope =
    (memory.fetch .student scope).map fun student =>
      { student with credits := memory.creditsWithout sessionId student.id }
  others : ∀ entity ∉ [Entity.taskSession, .programSnapshot, .student], ∀ scope,
    erased.fetch entity scope = memory.fetch entity scope
  labels : ∀ entity label, erased.idsLabelled entity label = memory.idsLabelled entity label
  tokens : ∀ token, erased.principal? token = memory.principal? token

theorem credits_eraseTaskSession (memory : Memory) (sessionId studentId : Int64) :
    (memory.eraseTaskSession sessionId).credits studentId =
      memory.creditsWithout sessionId studentId := by
  rw [credits, creditsWithout]
  congr 2
  refine List.filter_congr fun task _ => ?_
  rw [Bool.eq_iff_iff, contains_solvedTaskIds_iff, decide_eq_true_eq]
  rfl

theorem answersWithout_eraseTaskSession (memory : Memory) (sessionId : Int64) :
    (memory.eraseTaskSession sessionId).AnswersWithout memory sessionId where
  taskSessions scope := byId_filter TaskSession.id scope _ memory.taskSessions
  programSnapshots scope := byId_filter ProgramSnapshot.id scope _ memory.programSnapshots
  students scope := by
    change (byId _ scope memory.students).map _ = ((byId _ scope memory.students).map _).map _
    rw [List.map_map]
    refine List.map_congr_left fun student _ => ?_
    simp only [joinStudent, credits_eraseTaskSession]
    rfl
  others entity isOther scope := by
    cases entity with
    | taskSession | programSnapshot | student => exact absurd isOther (by decide)
    | block | toolbox | level | instruction | task | action => rfl
  labels entity label := by
    cases entity <;> rfl
  tokens _ := rfl

/-- After any history, a deletion leaves the memory that the history leads to without the entries
of the deleted sessions and of their snapshots, whatever is done next. Nothing else that
the memory answers changes but the credits, and deletions may be repeated and made in any order. -/
theorem deletion_erases_from_history (changes : List Change) (sessionId : Int64) :
    (∀ later, empty.changed (changes ++ .erase sessionId :: later) =
      empty.changed ((changes.filter fun change => !change.concerns sessionId) ++ later)) ∧
    (empty.changed (changes ++ [.erase sessionId])).AnswersWithout (empty.changed changes)
      sessionId ∧
    empty.changed (changes ++ [.erase sessionId, .erase sessionId]) =
      empty.changed (changes ++ [.erase sessionId]) ∧
    ∀ other, empty.changed (changes ++ [.erase sessionId, .erase other]) =
      empty.changed (changes ++ [.erase other, .erase sessionId]) := by
  simp only [changed_append, changed_cons, changed_nil, change]
  refine ⟨fun later => ?_, answersWithout_eraseTaskSession _ sessionId,
    eraseTaskSession_self _ sessionId, eraseTaskSession_comm _ sessionId⟩
  rw [eraseTaskSession_changed]
  rfl

end LearnExport.Memory
