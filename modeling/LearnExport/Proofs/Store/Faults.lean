import LearnExport.Proofs.Store.TableListing

/-!
# Queries that are not answered

Which queries a fetch asks can be told from the tables, and so can those that
look up the owner of a token. If any of them is not answered, the first such
query fails the whole, however much has been read by then; if all of them are,
the result is that of a database that answers every query.
-/

namespace LearnExport

open Schema

namespace Database

variable {α β ε ζ : Type} {database : Database}

/-- Whether one of some queries is not answered. -/
def anyFaulty (database : Database) (queries : List Query) : Bool :=
  queries.any fun query => (database.fault? query).isSome

theorem anyFaulty_eq_isSome (database : Database) (queries : List Query) :
    database.anyFaulty queries = (queries.findSome? database.fault?).isSome := by
  induction queries with
  | nil => rfl
  | cons query others ih =>
      rw [anyFaulty, List.any_cons, ← anyFaulty, ih, List.findSome?_cons]
      cases database.fault? query with
      | none => rfl
      | some fault => rfl

/-- A result, unless one of the queries asked for it is not answered. -/
def unlessFaulty (database : Database) (fail : DatabaseFault → ε) (queries : List Query)
    (result : Except ε α) : Except ε α :=
  match queries.findSome? database.fault? with
  | some fault => .error (fail fault)
  | none => result

theorem unlessFaulty_append (fail : DatabaseFault → ε) (first second : List Query)
    (result : Except ε α) :
    database.unlessFaulty fail (first ++ second) result =
      database.unlessFaulty fail first (database.unlessFaulty fail second result) := by
  unfold unlessFaulty
  rw [List.findSome?_append]
  cases first.findSome? database.fault? with
  | none => rfl
  | some fault => rfl

theorem unlessFaulty_mapError (fail : DatabaseFault → ε) (wrap : ε → ζ) (queries : List Query)
    (result : Except ε α) :
    (database.unlessFaulty fail queries result).mapError wrap =
      database.unlessFaulty (wrap ∘ fail) queries (result.mapError wrap) := by
  unfold unlessFaulty
  cases queries.findSome? database.fault? with
  | none => rfl
  | some fault => rfl

theorem unlessFaulty_map (fail : DatabaseFault → ε) (queries : List Query)
    (result : Except ε α) (turn : α → β) :
    (database.unlessFaulty fail queries result).map turn =
      database.unlessFaulty fail queries (result.map turn) := by
  unfold unlessFaulty
  cases queries.findSome? database.fault? with
  | none => rfl
  | some fault => rfl

theorem unlessFaulty_bind (fail : DatabaseFault → ε) (queries : List Query)
    (result : Except ε α) (next : α → Except ε β) :
    (database.unlessFaulty fail queries result >>= next) =
      database.unlessFaulty fail queries (result >>= next) := by
  unfold unlessFaulty
  cases queries.findSome? database.fault? with
  | none => rfl
  | some fault => rfl

/-- The queries that a result leads to, if there is one. -/
def followingQueries (result : Except ε α) (queries : α → List Query) : List Query :=
  match result with
  | .error _ => []
  | .ok value => queries value

theorem bind_unlessFaulty {fail : DatabaseFault → ε} {result : Except ε α}
    {queries : α → List Query} {failing working : α → Except ε β}
    (follows : ∀ value, failing value =
      database.unlessFaulty fail (queries value) (working value)) :
    (result >>= failing) =
      database.unlessFaulty fail (followingQueries result queries) (result >>= working) := by
  cases result with
  | error error => rfl
  | ok value => exact follows value

theorem answer_eq_unlessFaulty (database : Database) (query : Query) (value : α) :
    database.answer query value =
      database.unlessFaulty .database [query] ((ofTables database.tables).answer query value) := by
  unfold answer queryFault? unlessFaulty
  cases fault : database.fault? query with
  | none => simp [ofTables, fault]
  | some reason => simp [fault]

/-- The queries that read a relation of some owners. -/
def relationQueries (loading : RelationLoading) (relation : Relation) (owners : List Int64) :
    List Query :=
  match loading with
  | .batched => if owners.isEmpty then [] else [.related relation owners]
  | .perRecord => owners.map fun owner => .related relation [owner]

theorem relatedOnce_eq_unlessFaulty (database : Database) (relation : Relation)
    (owners : List Int64) :
    database.relatedOnce relation owners =
      database.unlessFaulty .database (relationQueries .batched relation owners)
        ((ofTables database.tables).relatedOnce relation owners) := by
  unfold relatedOnce relationQueries
  cases owners.isEmpty with
  | true => rfl
  | false =>
      simp only [Bool.false_eq_true, ↓reduceIte]
      rw [answer_eq_unlessFaulty, unlessFaulty_map]
      rfl

theorem relatedEach_eq_unlessFaulty (database : Database) (relation : Relation)
    (found : RelatedGroups) (owners : List Int64) :
    database.relatedEach relation found owners =
      database.unlessFaulty .database (relationQueries .perRecord relation owners)
        ((ofTables database.tables).relatedEach relation found owners) := by
  induction owners generalizing found with
  | nil => rfl
  | cons owner others ih =>
      have one := relatedOnce_eq_unlessFaulty database relation [owner]
      have rest (more : RelatedGroups) := ih (found.extend more)
      rw [relatedEach, relatedEach, one, unlessFaulty_bind, bind_unlessFaulty rest,
        relatedOnce_ofTables, ← unlessFaulty_append]
      rfl

theorem related_eq_unlessFaulty (database : Database) (loading : RelationLoading)
    (relation : Relation) (owners : List Int64) :
    database.related loading relation owners =
      database.unlessFaulty .database (relationQueries loading relation owners)
        ((ofTables database.tables).related loading relation owners) := by
  cases loading with
  | batched => exact relatedOnce_eq_unlessFaulty database relation owners
  | perRecord => exact relatedEach_eq_unlessFaulty database relation .empty owners

/-- The queries of a fetch: one for the records, and then those for their relation
to many, if they have one. -/
def fetchQueries (tables : Tables) (loading : RelationLoading) (entity : Entity)
    (scope : Scope) : List Query :=
  .records entity scope ::
    match entity with
    | .toolbox => relationQueries loading .toolboxBlocks
        ((sortedByRank (fun row => idRank row.id) (tables.within scope .toolboxes (·.id))).map
          (·.id))
    | .level => relationQueries loading .levelTasks
        ((tables.levelsWithToolboxes scope).map (·.1.id))
    | .student => relationQueries loading .seenInstructions
        ((sortedByRank (fun row => idRank row.id) (tables.within scope .students (·.id))).map
          (·.id))
    | .block | .instruction | .task | .taskSession | .programSnapshot | .action => []

/-- Records that are completed by a relation are read by the query for the records
and those for the relation. -/
private theorem fetch_related_eq_unlessFaulty (database : Database) {rows : List α}
    (id : α → Int64) (entity : Entity) (scope : Scope) (loading : RelationLoading)
    (relation : Relation) (complete : RelatedGroups → List α → List β) :
    (do
      let read ← database.answer (.records entity scope) rows
      let groups ← database.related loading relation (read.map id)
      return complete groups read) =
      database.unlessFaulty StoreError.database
        (.records entity scope :: relationQueries loading relation (rows.map id))
        (do
          let read ← (ofTables database.tables).answer (.records entity scope) rows
          let groups ← (ofTables database.tables).related loading relation (read.map id)
          return complete groups read) := by
  have second (read : List α) :
      (do
        let groups ← database.related loading relation (read.map id)
        return complete groups read) =
        database.unlessFaulty StoreError.database (relationQueries loading relation (read.map id))
          (do
            let groups ← (ofTables database.tables).related loading relation (read.map id)
            return complete groups read) := by
    rw [related_eq_unlessFaulty, unlessFaulty_bind]
  rw [answer_eq_unlessFaulty, unlessFaulty_bind, bind_unlessFaulty second, answer_records,
    ← unlessFaulty_append]
  rfl

/-- A fetch gives what it gives over a database that answers every query, unless
one of its queries is not answered. -/
theorem fetch_eq_unlessFaulty (database : Database) (loading : RelationLoading)
    (entity : Entity) (scope : Scope) :
    database.fetch loading entity scope =
      database.unlessFaulty .database (fetchQueries database.tables loading entity scope)
        ((ofTables database.tables).fetch loading entity scope) := by
  cases entity with
  | toolbox =>
      exact fetch_related_eq_unlessFaulty database ToolboxRow.id .toolbox scope loading
        .toolboxBlocks fun groups rows => groups.distribute (·.id) ToolboxRow.withBlocks rows
  | level =>
      exact fetch_related_eq_unlessFaulty database (fun row : StoredLevel × ToolboxRow => row.1.id)
        .level scope loading .levelTasks fun groups rows => groups.distribute (·.1.id)
          (fun row tasks => row.1.withRelations row.2.related tasks) rows
  | student =>
      exact fetch_related_eq_unlessFaulty database StudentRow.id .student scope loading
        .seenInstructions fun groups rows => groups.distribute (·.id)
          (fun row seen => row.withInstructions (database.tables.credits row.id) seen) rows
  | programSnapshot =>
      rw [fetch, answer_eq_unlessFaulty, unlessFaulty_bind]
      rfl
  | block | instruction | task | taskSession | action =>
      exact answer_eq_unlessFaulty database _ _

/-- The row of an active token. -/
def activeToken? (tables : Tables) (token : String) : Option TokenRow :=
  (tables.rows .tokens).find? fun row => row.key == token && row.isActive

/-- The owner of a token whose row was looked up, with the permissions that are read
by a second query. -/
def ownerFor (database : Database) (token : String) :
    Option TokenRow → Except StoreError (Option Principal)
  | none => .ok none
  | some row => do
      let codenames ← database.answer (.permissions token)
        (((database.tables.rows .tokenPermissions).filter fun grant => grant.key == token).map
          (·.codename))
      return some ⟨row.username, row.isSuperuser, .ofList codenames⟩

theorem principal_eq_ownerFor (database : Database) (token : String) :
    database.principal token =
      database.answer (.token token) (activeToken? database.tables token) >>=
        database.ownerFor token := by
  unfold principal ownerFor
  rfl

/-- The queries that look up the owner of a token: one for the token and, if it is
an active one, one for its permissions. -/
def principalQueries (tables : Tables) (token : String) : List Query :=
  .token token ::
    followingQueries ((ofTables tables).answer (.token token) (activeToken? tables token))
      fun row? => row?.toList.map fun _ => .permissions token

theorem principal_eq_unlessFaulty (database : Database) (token : String) :
    database.principal token =
      database.unlessFaulty .database (principalQueries database.tables token)
        ((ofTables database.tables).principal token) := by
  have second (row? : Option TokenRow) :
      database.ownerFor token row? =
        database.unlessFaulty .database (row?.toList.map fun _ => .permissions token)
          ((ofTables database.tables).ownerFor token row?) := by
    cases row? with
    | none => rfl
    | some row =>
        rw [ownerFor, answer_eq_unlessFaulty, unlessFaulty_bind]
        rfl
  rw [principal_eq_ownerFor, principal_eq_ownerFor, answer_eq_unlessFaulty, unlessFaulty_bind,
    bind_unlessFaulty second, ← unlessFaulty_append]
  rfl

theorem mem_followingQueries {result : Except ε α} {queries : α → List Query} {query : Query} :
    query ∈ followingQueries result queries ↔
      ∃ value, result = .ok value ∧ query ∈ queries value := by
  cases result <;> simp [followingQueries]

theorem nodup_followingQueries (result : Except ε α) {queries : α → List Query}
    (distinct : ∀ value, (queries value).Nodup) : (followingQueries result queries).Nodup := by
  cases result with
  | error error => exact List.nodup_nil
  | ok value => exact distinct value

/-- The queries for an owner show the token, which those for records do not. -/
theorem text?_of_mem_principalQueries {tables : Tables} {token : String} {query : Query}
    (asked : query ∈ principalQueries tables token) : query.text? = some token := by
  rcases List.mem_cons.mp asked with rfl | second
  · rfl
  · obtain ⟨row?, _, permissions⟩ := mem_followingQueries.mp second
    obtain ⟨_, _, rfl⟩ := List.mem_map.mp permissions
    rfl

theorem nodup_principalQueries (tables : Tables) (token : String) :
    (principalQueries tables token).Nodup := by
  refine List.nodup_cons.mpr ⟨fun repeated => ?_, nodup_followingQueries _ fun row? => ?_⟩
  · obtain ⟨row?, _, permissions⟩ := mem_followingQueries.mp repeated
    obtain ⟨_, _, same⟩ := List.mem_map.mp permissions
    exact absurd same (by simp)
  · cases row? <;> simp

/-- A relation is not read twice for any owner, if no owner is asked for twice. -/
theorem nodup_relationQueries (loading : RelationLoading) (relation : Relation)
    {owners : List Int64} (distinct : owners.Nodup) :
    (relationQueries loading relation owners).Nodup := by
  cases loading with
  | batched =>
      cases nobody : owners.isEmpty <;> simp [relationQueries, nobody]
  | perRecord =>
      refine distinct.map ?_
      intro first second same
      cases same
      rfl

theorem exists_owners_of_mem_relationQueries {loading : RelationLoading} {relation : Relation}
    {owners : List Int64} {query : Query}
    (asked : query ∈ relationQueries loading relation owners) :
    ∃ someOwners, query = .related relation someOwners := by
  cases loading with
  | batched =>
      cases nobody : owners.isEmpty with
      | true => simp [relationQueries, nobody] at asked
      | false => exact ⟨owners, by simpa [relationQueries, nobody] using asked⟩
  | perRecord =>
      obtain ⟨owner, _, rfl⟩ := List.mem_map.mp asked
      exact ⟨[owner], rfl⟩

theorem text?_of_mem_fetchQueries {tables : Tables} {loading : RelationLoading}
    {entity : Entity} {scope : Scope} {query : Query}
    (asked : query ∈ fetchQueries tables loading entity scope) : query.text? = none := by
  rcases List.mem_cons.mp asked with rfl | second
  · rfl
  · have related : ∃ relation someOwners, query = .related relation someOwners := by
      cases entity with
      | toolbox | level | student => exact ⟨_, exists_owners_of_mem_relationQueries second⟩
      | block | instruction | task | taskSession | programSnapshot | action =>
          exact absurd second List.not_mem_nil
    obtain ⟨relation, someOwners, rfl⟩ := related
    rfl

theorem nodup_fetchQueries {tables : Tables} (consistent : tables.Consistent)
    (loading : RelationLoading) (entity : Entity) (scope : Scope) :
    (fetchQueries tables loading entity scope).Nodup := by
  have withRelation (relation : Relation) {owners : List Int64} (distinct : owners.Nodup) :
      (Query.records entity scope :: relationQueries loading relation owners).Nodup := by
    refine List.nodup_cons.mpr ⟨fun repeated => ?_, nodup_relationQueries loading relation distinct⟩
    obtain ⟨someOwners, same⟩ := exists_owners_of_mem_relationQueries repeated
    exact absurd same (by simp)
  cases entity with
  | toolbox =>
      exact withRelation .toolboxBlocks
        (tables.nodup_sorted_within .toolboxes _ scope (consistent.keys_nodup .toolboxes))
  | level => exact withRelation .levelTasks (consistent.nodup_levelsWithToolboxes scope)
  | student =>
      exact withRelation .seenInstructions
        (tables.nodup_sorted_within .students _ scope (consistent.keys_nodup .students))
  | block | instruction | task | taskSession | programSnapshot | action =>
      exact List.nodup_singleton _

end Database

end LearnExport
