import LearnExport.Proofs.Http.Dependence
import LearnExport.Proofs.Store.Holding

/-!
# Stores that give the same answers

A service cannot tell how its records are stored. It makes no difference whether
the relations of records are read from the tables at once or one record at a
time, nor whether the rows are in tables or in memory; and a task session may
then be deleted from both.
-/

namespace LearnExport

open Schema Http

/-- A token is part of a header that is read as text. -/
theorem Http.isHeaderText_of_bearerToken? {value token : String}
    (isToken : bearerToken? value = some token) :
    Text.isHeaderText value = true ∧ ∀ character ∈ token.toList, character ∈ value.toList := by
  unfold bearerToken? at isToken
  dsimp only at isToken
  split at isToken
  · rename_i rest afterScheme
    split at isToken
    · rename_i isBearer
      refine ⟨(Bool.and_eq_true_iff.mp isBearer).1, fun character member => ?_⟩
      rw [← Option.some.inj isToken, String.toList_ofList] at member
      have inRest : character ∈ rest := (List.dropWhile_sublist _).mem member
      apply List.mem_of_mem_drop
      rw [afterScheme]
      exact List.mem_cons_of_mem ' ' inRest
    · exact absurd isToken (by simp)
  · exact absurd isToken (by simp)

/-- The database can store the token of a request. -/
theorem Http.Request.storable_of_token? {request : Request} {token : String}
    (hasToken : request.token? = some token) : '\x00' ∉ token.toList := by
  obtain ⟨value, _, isToken⟩ := Option.bind_eq_some_iff.mp hasToken
  obtain ⟨isText, fromValue⟩ := isHeaderText_of_bearerToken? isToken
  intro member
  have printable := List.all_eq_true.mp isText '\x00' (fromValue '\x00' member)
  exact absurd printable (by decide)

/-- Two stores that give the same answers and over which a service gives the same
responses. Labels and tokens are texts that a database can store. -/
structure Store.Indistinguishable (first second : Store) : Prop where
  fetch (entity : Entity) (scope : Scope) : first.fetch entity scope = second.fetch entity scope
  idsLabelled (entity : Entity) (label : String) (storable : '\x00' ∉ label.toList) :
    first.idsLabelled entity label = second.idsLabelled entity label
  principal (token : String) (storable : '\x00' ∉ token.toList) :
    first.principal token = second.principal token
  respond (bundleUrl : String) (pack : Sheet → List UInt8) (media : Request → Response)
    (request : Request) :
    (Service.mk first bundleUrl pack media).respond request =
      (Service.mk second bundleUrl pack media).respond request

theorem Store.Indistinguishable.of_answers {first second : Store}
    (fetch : ∀ entity scope, first.fetch entity scope = second.fetch entity scope)
    (idsLabelled : ∀ entity label, '\x00' ∉ label.toList →
      first.idsLabelled entity label = second.idsLabelled entity label)
    (principal : ∀ token, '\x00' ∉ token.toList →
      first.principal token = second.principal token) :
    first.Indistinguishable second where
  fetch := fetch
  idsLabelled := idsLabelled
  principal := principal
  respond bundleUrl pack media request := by
    have sameCaller : request.caller first = request.caller second := by
      unfold Request.caller
      cases hasToken : request.token? with
      | none => rfl
      | some token => simp only [principal token (Request.storable_of_token? hasToken)]
    exact Service.AgreeFor.respond_eq
      ⟨rfl, rfl, rfl, sameCaller, fun _ entity scope _ _ => fetch entity scope⟩

/-- A memory that holds the rows of consistent tables is a store like the
tables. -/
theorem Memory.Holds.indistinguishable {tables : Tables} {memory : Memory}
    (holds : memory.Holds tables) (consistent : tables.Consistent) :
    ((Database.ofTables tables).toStore .batched).Indistinguishable memory.toStore := by
  refine .of_answers ?_ ?_ ?_
  · intro entity scope
    refine (Database.fetch_ofTables consistent .batched entity scope).trans ?_
    rw [← holds.fetch_eq_listing consistent]
    rfl
  · intro entity label storable
    exact holds.idsLabelled_eq consistent entity storable
  · intro token storable
    exact holds.principal_eq storable

/-- Tables and a memory that holds their rows are indistinguishable, and remain so
when the same task session is deleted from both. -/
theorem tables_indistinguishable_from_memory {tables : Tables} {memory : Memory}
    (reachable : tables.Reachable) (holds : memory.Holds tables) :
    ((Database.ofTables tables).toStore .batched).Indistinguishable memory.toStore ∧
    ∀ sessionId, ∃ remaining count,
      tables.delete .taskSessions sessionId = .ok (remaining, count) ∧
        (memory.eraseTaskSession sessionId).Holds remaining ∧
        ((Database.ofTables remaining).toStore .batched).Indistinguishable
          (memory.eraseTaskSession sessionId).toStore := by
  have consistent := reachable.consistent
  refine ⟨holds.indistinguishable consistent, fun sessionId => ?_⟩
  obtain ⟨remaining, count, deleted, sameRows⟩ := consistent.delete_taskSession sessionId
  have stillHolds : (memory.eraseTaskSession sessionId).Holds remaining :=
    (holds.eraseTaskSession sessionId).of_rows_eq sameRows
  exact ⟨remaining, count, deleted, stillHolds,
    stillHolds.indistinguishable (consistent.delete deleted)⟩

/-- A course of one task that one student has tried, with one token. -/
def courseTables : Tables :=
  let now := Time.Instant.epoch
  let tables := (Tables.empty.insert .toolboxes now ⟨.omitted, .given "loops"⟩).1
  let tables := (tables.insert .blocks now ⟨.omitted, .given "repeat", .omitted⟩).1
  let tables := (tables.insert .blocks now ⟨.omitted, .given "while", .omitted⟩).1
  let tables := (tables.insert .toolboxBlocks now ⟨.given 1, .given 1⟩).1
  let tables := (tables.insert .toolboxBlocks now ⟨.given 1, .given 2⟩).1
  let tables := (tables.insert .levels now
    ⟨.omitted, .given 3, .given "first", .given 5, .given 1⟩).1
  let tables := (tables.insert .tasks now
    ⟨.omitted, .given "turn", .given 1, .omitted, .omitted⟩).1
  let tables := (tables.insert .students now ⟨.omitted⟩).1
  let tables := (tables.insert .taskSessions now
    ⟨.omitted, .given 1, .given 1, .given true, .omitted, .omitted⟩).1
  let tables := (tables.insert .programSnapshots now
    ⟨.omitted, .given 1, .omitted, .given "", .omitted, .omitted⟩).1
  let tables := (tables.insert .tokens now
    ⟨.given "t", .given "reader", .omitted, .omitted, .omitted⟩).1
  (tables.insert .tokenPermissions now ⟨.given "t", .given "learn.view_toolbox"⟩).1

theorem reachable_courseTables : courseTables.Reachable := by
  unfold courseTables
  repeat apply Tables.Reachable.insert
  exact .empty

/-- The same course in memory, entered in another order. -/
def courseMemory : Memory :=
  Memory.empty.insertAll
    [.token "t" ⟨"reader", false, .ofList ["learn.view_toolbox"]⟩,
      .programSnapshot ⟨1, 1, .epoch, "", .edit, none⟩,
      .taskSession ⟨1, 1, 1, true, .epoch, none⟩,
      .student ⟨1, []⟩,
      .task ⟨1, "turn", 1, "", ""⟩,
      .level ⟨1, 3, "first", 5, 1⟩,
      .toolbox ⟨1, "loops", [2, 1]⟩,
      .block ⟨2, "while", 0⟩,
      .block ⟨1, "repeat", 0⟩]

theorem courseMemory_holds : courseMemory.Holds courseTables := by
  constructor
  case blockIds =>
    intro toolbox member
    rw [List.mem_singleton.mp (show toolbox ∈ [_] from member)]
    decide
  case seenIds =>
    intro student member
    rw [List.mem_singleton.mp (show student ∈ [_] from member)]
    decide
  case tokens =>
    intro token owner
    have owned : courseMemory.principal? token = some owner ↔
        token = "t" ∧ ⟨"reader", false, .ofList ["learn.view_toolbox"]⟩ = owner := by
      change List.lookup token [("t", _)] = some owner ↔ _
      cases isToken : token == "t" with
      | true => simp [beq_iff_eq.mp isToken]
      | false => simp [List.lookup_cons, isToken, beq_eq_false_iff_ne.mp isToken]
    have tokenRows : courseTables.rows .tokens = [⟨"t", "reader", false, true⟩] := by decide
    have isOwner : courseTables.ownerOf ⟨"t", "reader", false, true⟩ =
        ⟨"reader", false, .ofList ["learn.view_toolbox"]⟩ := by decide
    rw [owned, tokenRows, ← isOwner, Tables.ownerOf_eq_iff]
    constructor
    · rintro ⟨rfl, sameOwner⟩
      exact ⟨_, List.mem_singleton_self _, rfl, rfl, sameOwner⟩
    · rintro ⟨row, member, rfl, _, sameOwner⟩
      cases List.mem_singleton.mp member
      exact ⟨rfl, sameOwner⟩
  all_goals decide

/-- The course in tables and in memory is such a case. -/
theorem courseTables_indistinguishable_from_courseMemory :
    ((Database.ofTables courseTables).toStore .batched).Indistinguishable courseMemory.toStore ∧
    ∀ sessionId, ∃ remaining count,
      courseTables.delete .taskSessions sessionId = .ok (remaining, count) ∧
        (courseMemory.eraseTaskSession sessionId).Holds remaining ∧
        ((Database.ofTables remaining).toStore .batched).Indistinguishable
          (courseMemory.eraseTaskSession sessionId).toStore :=
  tables_indistinguishable_from_memory reachable_courseTables courseMemory_holds

/-- The way in which relations are read makes no difference: both ways list the
joined rows, so that a service over the one gives the same responses as over the
other. -/
theorem perRecord_eq_batched {tables : Tables} (reachable : tables.Reachable) :
    (∀ entity scope,
      (Database.ofTables tables).fetch .perRecord entity scope =
          .ok (tables.listing entity scope) ∧
        (Database.ofTables tables).fetch .batched entity scope =
          .ok (tables.listing entity scope)) ∧
    ∀ bundleUrl pack media request,
      (Service.mk ((Database.ofTables tables).toStore .perRecord) bundleUrl pack media).respond
          request =
        (Service.mk ((Database.ofTables tables).toStore .batched) bundleUrl pack media).respond
          request := by
  have listed (loading : RelationLoading) (entity : Entity) (scope : Scope) :=
    Database.fetch_ofTables reachable.consistent loading entity scope
  have indistinguishable : ((Database.ofTables tables).toStore .perRecord).Indistinguishable
      ((Database.ofTables tables).toStore .batched) := by
    refine .of_answers (fun entity scope => ?_) (fun _ _ _ => rfl) fun _ _ => rfl
    exact (listed .perRecord entity scope).trans (listed .batched entity scope).symm
  exact ⟨fun entity scope => ⟨listed .perRecord entity scope, listed .batched entity scope⟩,
    indistinguishable.respond⟩

/-- The tables of the course can be read in either way. -/
theorem perRecord_eq_batched_of_courseTables :
    (∀ entity scope,
      (Database.ofTables courseTables).fetch .perRecord entity scope =
          .ok (courseTables.listing entity scope) ∧
        (Database.ofTables courseTables).fetch .batched entity scope =
          .ok (courseTables.listing entity scope)) ∧
    ∀ bundleUrl pack media request,
      (Service.mk ((Database.ofTables courseTables).toStore .perRecord) bundleUrl pack
          media).respond request =
        (Service.mk ((Database.ofTables courseTables).toStore .batched) bundleUrl pack
          media).respond request :=
  perRecord_eq_batched reachable_courseTables

end LearnExport
