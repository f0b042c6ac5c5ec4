import LearnExport.Proofs.Json.Extent
import LearnExport.Proofs.Json.StringText
import LearnExport.Proofs.Number.DecimalText
import LearnExport.Proofs.Time.InstantText
import LearnExport.Record.Row

/-!
# Rows of events lose nothing

Events are shown by ids, texts, instants and measured values, none of which has the
text of another; only a leap second within a minute has the text of the second after
it. So the row of a task session tells it apart from all others with other instants
shown. The row of a program snapshot leaves out only whether a program was correct that
was not executed, and the row of an action only a randomness that is no real number.
-/

namespace LearnExport

namespace Json

theorem characters_string_inj {first second : String} :
    (string first).characters = (string second).characters ↔ first = second :=
  stringText_inj

theorem characters_idValue_inj {first second : Int64} :
    (idValue first).characters = (idValue second).characters ↔ first = second :=
  Text.integer_inj.trans Int64.toInt_inj

theorem characters_bool_inj {first second : Bool} :
    (bool first).characters = (bool second).characters ↔ first = second := by
  cases first <;> cases second <;> simp [characters]

theorem characters_instantValue_inj {first second : Time.Instant} :
    (instantValue first).characters = (instantValue second).characters ↔
      first.shown = second.shown :=
  stringText_inj.trans Time.Instant.text_inj

/-- A missing value is told apart from all that are not null. -/
theorem characters_ofOption_inj {α : Type} (toJson : α → Json) {first second : Option α}
    (notNull : ∀ value, toJson value ≠ .null)
    (alike : ∀ value ∈ first, ∀ other ∈ second,
      (toJson value).characters = (toJson other).characters ↔ value = other) :
    (ofOption toJson first).characters = (ofOption toJson second).characters ↔
      first = second := by
  have missing (value : α) : (toJson value).characters ≠ Json.null.characters := by
    obtain ⟨character, others, written, notN⟩ := exists_characters_eq_cons (notNull value)
    rw [written]
    exact fun same => notN (List.cons.inj same).1
  cases first with
  | none =>
      cases second with
      | none => simp
      | some other => simpa [ofOption] using (missing other).symm
  | some value =>
      cases second with
      | none => simpa [ofOption] using missing value
      | some other => simpa [ofOption] using alike value rfl other rfl

theorem ofOption_instantValue (instant : Option Time.Instant) :
    ofOption instantValue instant = ofOption instantValue (instant.map (·.shown)) := by
  cases instant with
  | none => rfl
  | some instant => exact congrArg Json.string instant.text_shown.symm

theorem characters_ofOption_instantValue_inj {first second : Option Time.Instant} :
    (ofOption instantValue first).characters = (ofOption instantValue second).characters ↔
      first.map (·.shown) = second.map (·.shown) := by
  have shown_shown (instant : Time.Instant) : instant.shown.shown = instant.shown :=
    Time.Instant.shown_eq_self_iff.mpr instant.leapEndsMinute_shown
  rw [ofOption_instantValue first, ofOption_instantValue second]
  refine characters_ofOption_inj instantValue nofun fun value isFirst other isSecond => ?_
  obtain ⟨instant, -, rfl⟩ := Option.mem_map.mp isFirst
  obtain ⟨otherInstant, -, rfl⟩ := Option.mem_map.mp isSecond
  rw [characters_instantValue_inj, shown_shown, shown_shown]

/-- What is no real number is not told apart from a missing value. -/
theorem ofOption_ofDouble (number : Option Number.Binary64) :
    ofOption ofDouble number = ofOption .double (number.filter (·.isFinite)) := by
  cases number with
  | none => rfl
  | some number =>
      by_cases isFinite : number.isFinite <;>
        simp [ofOption, ofDouble, Option.filter, isFinite]

theorem characters_ofOption_ofDouble_inj {first second : Option Number.Binary64} :
    (ofOption ofDouble first).characters = (ofOption ofDouble second).characters ↔
      first.filter (·.isFinite) = second.filter (·.isFinite) := by
  rw [ofOption_ofDouble, ofOption_ofDouble]
  refine characters_ofOption_inj .double nofun fun number isFirst other isSecond => ?_
  exact Number.Layout.row_double_inj (Option.mem_filter_iff.mp isFirst).2
    (Option.mem_filter_iff.mp isSecond).2

end Json

theorem Granularity.name_inj {first second : Granularity} :
    first.name = second.name ↔ first = second := by
  refine ⟨fun same => ?_, congrArg name⟩
  rw [← Option.some.injEq, ← ofName?_name first, same, ofName?_name]

/-- Rows are told apart by their cells. -/
theorem Entity.compact_row_inj {entity : Entity} {first second : entity.Record} :
    (entity.row first).compact = (entity.row second).compact ↔
      (entity.cells first).map Json.characters = (entity.cells second).map Json.characters := by
  rw [Json.compact, Json.compact, String.ofList_inj, row, row,
    Json.characters_object_inj (entity.length_cells first) (entity.length_cells second)]

/-- A session with the instants that are read in its row. -/
def TaskSession.shown (session : TaskSession) : TaskSession :=
  { session with
    start := session.start.shown
    stop := session.stop.map (·.shown) }

def ProgramSnapshot.shown (snapshot : ProgramSnapshot) : ProgramSnapshot :=
  { snapshot with time := snapshot.time.shown }

def Action.shown (action : Action) : Action :=
  { action with time := action.time.shown }

theorem TaskSession.shown_eq_self_iff {session : TaskSession} :
    session.shown = session ↔
      session.start.LeapEndsMinute ∧ ∀ stop ∈ session.stop, stop.LeapEndsMinute := by
  obtain ⟨_, _, _, _, start, stop⟩ := session
  cases stop <;> simp [shown, Time.Instant.shown_eq_self_iff]

theorem ProgramSnapshot.shown_eq_self_iff {snapshot : ProgramSnapshot} :
    snapshot.shown = snapshot ↔ snapshot.time.LeapEndsMinute := by
  cases snapshot
  simp [shown, Time.Instant.shown_eq_self_iff]

theorem Action.shown_eq_self_iff {action : Action} :
    action.shown = action ↔ action.time.LeapEndsMinute := by
  cases action
  simp [shown, Time.Instant.shown_eq_self_iff]

theorem TaskSession.compact_row_inj {first second : TaskSession} :
    (Entity.taskSession.row first).compact = (Entity.taskSession.row second).compact ↔
      first.shown = second.shown := by
  rw [Entity.compact_row_inj]
  cases first
  cases second
  simp only [Entity.cells, List.map_cons, List.map_nil, List.cons.injEq, and_true,
    Json.characters_idValue_inj, Json.characters_bool_inj, Json.characters_instantValue_inj,
    Json.characters_ofOption_instantValue_inj, shown, TaskSession.mk.injEq]

theorem ProgramSnapshot.compact_row_inj {first second : ProgramSnapshot} :
    (Entity.programSnapshot.row first).compact = (Entity.programSnapshot.row second).compact ↔
      first.shown = { second.shown with correct := first.correct } ∧
        (first.granularity ≠ .edit → first.correct = second.correct) := by
  have judged : first.granularity = second.granularity →
      (first.judgement = second.judgement ↔
        (first.granularity ≠ .edit → first.correct = second.correct)) := by
    intro same
    rw [judgement, judgement, ← same]
    cases first.granularity <;> simp
  rw [Entity.compact_row_inj]
  simp only [Entity.cells, List.map_cons, List.map_nil, List.cons.injEq, and_true,
    Json.characters_idValue_inj, Json.characters_string_inj, Json.characters_instantValue_inj,
    Json.characters_ofOption_inj .bool nofun fun _ _ _ _ => Json.characters_bool_inj,
    Granularity.name_inj]
  cases first
  cases second
  simp only [shown, ProgramSnapshot.mk.injEq, and_true, and_assoc]
  tauto

theorem Action.compact_row_inj {first second : Action} :
    (Entity.action.row first).compact = (Entity.action.row second).compact ↔
      first.shown = { second.shown with randomness := first.randomness } ∧
        first.randomness.filter (·.isFinite) = second.randomness.filter (·.isFinite) := by
  rw [Entity.compact_row_inj]
  cases first
  cases second
  simp only [Entity.cells, List.map_cons, List.map_nil, List.cons.injEq, and_true,
    Json.characters_idValue_inj, Json.characters_string_inj, Json.characters_instantValue_inj,
    Json.characters_ofOption_inj idValue nofun fun _ _ _ _ =>
      Json.characters_idValue_inj,
    Json.characters_ofOption_ofDouble_inj, shown, Action.mk.injEq]
  tauto

end LearnExport
