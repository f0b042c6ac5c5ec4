import LearnExport.Proofs.Http.Dependence
import LearnExport.Proofs.Store.Faults

/-!
# All or nothing

A response is what it is over a database that answers every query, or it says
that there was an error of the server and nothing else. Which of the two depends
on whether one of the queries is not answered that the request leads to: those
for the caller and, if these may have what they ask for, those for the records.
-/

namespace LearnExport.Http

open Schema Database

/-- What a request fails with if a query is not answered. -/
def faultError (fault : DatabaseFault) : ApiError :=
  .store (.database fault)

namespace Request

/-- The queries for the caller of a request. -/
def callerQueries (request : Request) (tables : Tables) : List Query :=
  match request.token? with
  | none => []
  | some token => principalQueries tables token

/-- The queries for the records of an entity, which are asked in a known format
only. -/
def scopeQueries (request : Request) (tables : Tables) (loading : RelationLoading)
    (entity : Entity) : Option Scope → List Query
  | none => []
  | some scope =>
      followingQueries (Service.formatOf request) fun _ => fetchQueries tables loading entity scope

/-- The same queries, which are asked only for a caller who may read the entity. -/
def recordQueries (request : Request) (tables : Tables) (loading : RelationLoading)
    (entity : Entity) (scope? : Option Scope) : List Query :=
  followingQueries
    (request.caller ((ofTables tables).toStore loading) >>= (Access.read entity).check) fun _ =>
      request.scopeQueries tables loading entity scope?

/-- The queries that a request for what a route stands for leads to. -/
def routeQueries (request : Request) (tables : Tables) (loading : RelationLoading) :
    Route → List Query
  | .health | .media _ => []
  | .index | .latestBundle => request.callerQueries tables
  | .listing entity =>
      request.callerQueries tables ++ request.recordQueries tables loading entity (some .all)
  | .retrieval entity segment =>
      request.callerQueries tables ++
        request.recordQueries tables loading entity ((segmentId? segment).map .one)

/-- The queries that a request leads to if all of them are answered. -/
def queries (request : Request) (tables : Tables) (loading : RelationLoading) : List Query :=
  match request.method, Route.ofPath? request.target.path with
  | .get, some route | .head, some route => request.routeQueries tables loading route
  | _, _ => []

variable {database : Database} {loading : RelationLoading} {request : Request}

theorem caller_eq_unlessFaulty :
    request.caller (database.toStore loading) =
      database.unlessFaulty faultError (request.callerQueries database.tables)
        (request.caller ((ofTables database.tables).toStore loading)) := by
  unfold caller callerQueries
  cases request.token? with
  | none => rfl
  | some token =>
      have looked : (database.toStore loading).principal token = _ :=
        principal_eq_unlessFaulty database token
      dsimp only
      rw [looked, unlessFaulty, unlessFaulty]
      cases (principalQueries database.tables token).findSome? database.fault? with
      | none => rfl
      | some fault => rfl

theorem text?_of_mem_callerQueries {tables : Tables} {query : Query}
    (asked : query ∈ request.callerQueries tables) : query.text?.isSome = true := by
  unfold callerQueries at asked
  cases isToken : request.token? with
  | none =>
      rw [isToken] at asked
      exact absurd asked List.not_mem_nil
  | some token =>
      rw [isToken] at asked
      rw [text?_of_mem_principalQueries asked]
      rfl

theorem text?_of_mem_recordQueries {tables : Tables} {entity : Entity} {scope? : Option Scope}
    {query : Query} (asked : query ∈ request.recordQueries tables loading entity scope?) :
    query.text? = none := by
  obtain ⟨_, _, permitted⟩ := mem_followingQueries.mp asked
  cases scope? with
  | none => exact absurd permitted List.not_mem_nil
  | some scope =>
      obtain ⟨_, _, fetched⟩ := mem_followingQueries.mp permitted
      exact text?_of_mem_fetchQueries fetched

theorem nodup_callerQueries (tables : Tables) : (request.callerQueries tables).Nodup := by
  unfold callerQueries
  cases request.token? with
  | none => exact List.nodup_nil
  | some token => exact nodup_principalQueries tables token

theorem nodup_recordQueries {tables : Tables} (consistent : tables.Consistent) (entity : Entity)
    (scope? : Option Scope) :
    (request.recordQueries tables loading entity scope?).Nodup := by
  refine nodup_followingQueries _ fun _ => ?_
  cases scope? with
  | none => exact List.nodup_nil
  | some scope =>
      exact nodup_followingQueries _ fun _ => nodup_fetchQueries consistent loading entity scope

/-- No query is asked twice for one request. -/
theorem nodup_queries {tables : Tables} (consistent : tables.Consistent) :
    (request.queries tables loading).Nodup := by
  have both (entity : Entity) (scope? : Option Scope) :
      (request.callerQueries tables ++
        request.recordQueries tables loading entity scope?).Nodup := by
    refine (nodup_callerQueries tables).append (nodup_recordQueries consistent entity scope?) ?_
    intro query forCaller forRecords
    have hasText := text?_of_mem_callerQueries forCaller
    rw [text?_of_mem_recordQueries forRecords] at hasText
    exact absurd hasText (by decide)
  have ofRoute (route : Route) : (request.routeQueries tables loading route).Nodup := by
    cases route with
    | health | media path => exact List.nodup_nil
    | index | latestBundle => exact nodup_callerQueries tables
    | listing entity => exact both entity (some .all)
    | retrieval entity segment => exact both entity ((segmentId? segment).map .one)
  unfold queries
  cases request.method with
  | get | head =>
      cases Route.ofPath? request.target.path with
      | none => exact List.nodup_nil
      | some route => exact ofRoute route
  | options | other name => cases Route.ofPath? request.target.path <;> exact List.nodup_nil

end Request

namespace Service

/-- The service over a database. -/
def ofDatabase (database : Database) (loading : RelationLoading) (bundleUrl : String)
    (pack : Sheet → List UInt8) (media : Request → Response) : Service where
  store := database.toStore loading
  bundleUrl := bundleUrl
  pack := pack
  media := media

section

variable {database : Database} {loading : RelationLoading} {bundleUrl : String}
  {pack : Sheet → List UInt8} {media : Request → Response} {request : Request}

theorem permitted_eq_unlessFaulty (access : Access) :
    (ofDatabase database loading bundleUrl pack media).permitted request access =
      database.unlessFaulty faultError (request.callerQueries database.tables)
        ((ofDatabase (ofTables database.tables) loading bundleUrl pack media).permitted request
          access) := by
  change (request.caller (database.toStore loading) >>= access.check) = _
  rw [Request.caller_eq_unlessFaulty, unlessFaulty_bind]
  rfl

theorem table_eq_unlessFaulty (entity : Entity) (scope : Scope) (format : Format) :
    (ofDatabase database loading bundleUrl pack media).table entity scope format =
      database.unlessFaulty faultError (fetchQueries database.tables loading entity scope)
        ((ofDatabase (ofTables database.tables) loading bundleUrl pack media).table entity scope
          format) := by
  have fetched : (ofDatabase database loading bundleUrl pack media).store.fetch entity scope = _ :=
    fetch_eq_unlessFaulty database loading entity scope
  rw [table, fetched, unlessFaulty_mapError, unlessFaulty_bind]
  rfl

theorem listing_eq_unlessFaulty (entity : Entity) :
    (ofDatabase database loading bundleUrl pack media).listing request entity =
      database.unlessFaulty faultError
        (request.routeQueries database.tables loading (.listing entity))
        ((ofDatabase (ofTables database.tables) loading bundleUrl pack media).listing request
          entity) := by
  have records (_ : Principal) :
      (formatOf request >>= (ofDatabase database loading bundleUrl pack media).table entity .all) =
        database.unlessFaulty faultError
          (request.scopeQueries database.tables loading entity (some .all))
          (formatOf request >>=
            (ofDatabase (ofTables database.tables) loading bundleUrl pack media).table entity
              .all) :=
    bind_unlessFaulty (table_eq_unlessFaulty entity .all)
  unfold listing
  rw [permitted_eq_unlessFaulty, unlessFaulty_bind, bind_unlessFaulty records,
    ← unlessFaulty_append]
  rfl

/-- The table of the records with an id, if there are any. -/
def tableOfId (service : Service) (entity : Entity) (id : Int64) (format : Format) :
    Except ApiError RenderedTable := do
  let table ← service.table entity (.one id) format
  if table.rowCount = 0 then .error .notFound else .ok table

/-- What is retrieved for a caller who is let through. -/
def tableOfSegment (service : Service) (request : Request) (entity : Entity)
    (segment : List Char) : Except ApiError RenderedTable :=
  match segmentId? segment with
  | none => .error .notFound
  | some id => formatOf request >>= service.tableOfId entity id

theorem retrieval_eq_tableOfSegment (service : Service) (entity : Entity)
    (segment : List Char) :
    service.retrieval request entity segment =
      service.permitted request (.read entity) >>= fun _ =>
        service.tableOfSegment request entity segment := by
  unfold retrieval tableOfSegment
  cases segmentId? segment <;> rfl

theorem retrieval_eq_unlessFaulty (entity : Entity) (segment : List Char) :
    (ofDatabase database loading bundleUrl pack media).retrieval request entity segment =
      database.unlessFaulty faultError
        (request.routeQueries database.tables loading (.retrieval entity segment))
        ((ofDatabase (ofTables database.tables) loading bundleUrl pack media).retrieval request
          entity segment) := by
  have tabled (id : Int64) (format : Format) :
      (ofDatabase database loading bundleUrl pack media).tableOfId entity id format =
        database.unlessFaulty faultError (fetchQueries database.tables loading entity (.one id))
          ((ofDatabase (ofTables database.tables) loading bundleUrl pack media).tableOfId entity id
            format) := by
    rw [tableOfId, table_eq_unlessFaulty, unlessFaulty_bind]
    rfl
  have records (_ : Principal) :
      (ofDatabase database loading bundleUrl pack media).tableOfSegment request entity segment =
        database.unlessFaulty faultError
          (request.scopeQueries database.tables loading entity ((segmentId? segment).map .one))
          ((ofDatabase (ofTables database.tables) loading bundleUrl pack media).tableOfSegment
            request entity segment) := by
    unfold tableOfSegment
    cases segmentId? segment with
    | none => rfl
    | some id => exact bind_unlessFaulty (tabled id)
  rw [retrieval_eq_tableOfSegment, retrieval_eq_tableOfSegment, permitted_eq_unlessFaulty,
    unlessFaulty_bind, bind_unlessFaulty records, ← unlessFaulty_append]
  rfl

theorem respondWith_unlessFaulty {α : Type} (queries : List Query) (result : Except ApiError α)
    (response : α → Response) :
    respondWith (database.unlessFaulty faultError queries result) response =
      if database.anyFaulty queries then detail 500 "A server error occurred."
      else respondWith result response := by
  rw [anyFaulty_eq_isSome, unlessFaulty]
  cases queries.findSome? database.fault? with
  | none => rfl
  | some fault => rfl

theorem get_eq_unlessFaulty (route : Route) :
    (ofDatabase database loading bundleUrl pack media).get request route =
      if database.anyFaulty (request.routeQueries database.tables loading route) then
        detail 500 "A server error occurred."
      else
        (ofDatabase (ofTables database.tables) loading bundleUrl pack media).get request route := by
  cases route with
  | index =>
      rw [get, permitted_eq_unlessFaulty]
      exact respondWith_unlessFaulty _ _ _
  | latestBundle =>
      rw [get, permitted_eq_unlessFaulty]
      exact respondWith_unlessFaulty _ _ _
  | listing entity =>
      rw [get, listing_eq_unlessFaulty]
      exact respondWith_unlessFaulty _ _ _
  | retrieval entity segment =>
      rw [get, retrieval_eq_unlessFaulty]
      exact respondWith_unlessFaulty _ _ _
  | health => rfl
  | media path => rfl

/-- The response to a request that the service could not serve for a reason of its
own. It says nothing about the reason. -/
def serverFailure (method : Method) : Response where
  status := 500
  headers :=
    [("content-type", "application/json"), ("content-length", "37"),
      ("access-control-allow-origin", "*"),
      ("vary", "origin, access-control-request-method, access-control-request-headers")]
  body :=
    match method with
    | .head => []
    | .get | .options | .other _ => .text "\x7b\"detail\":\"A server error occurred.\"\x7d"

theorem answer_eq_unlessFaulty :
    (ofDatabase database loading bundleUrl pack media).answer request =
      if database.anyFaulty (request.queries database.tables loading) then
        detail 500 "A server error occurred."
      else (ofDatabase (ofTables database.tables) loading bundleUrl pack media).answer request := by
  unfold answer Request.queries
  cases request.method with
  | get | head =>
      cases Route.ofPath? request.target.path with
      | none => rfl
      | some route => exact get_eq_unlessFaulty route
  | options | other name => cases Route.ofPath? request.target.path <;> rfl

theorem withLength_serverError :
    withSharing (detail 500 "A server error occurred.").withLength = serverFailure .get := by
  decide +kernel

/-- A request is answered as by a database that answers every query, unless one of
the queries that it leads to is not answered; no query is asked twice. -/
theorem respond_all_or_nothing (database : Database) (loading : RelationLoading)
    (bundleUrl : String) (pack : Sheet → List UInt8) (media : Request → Response)
    (request : Request) :
    let asked := request.queries database.tables loading
    (ofDatabase database loading bundleUrl pack media).respond request =
        (if database.anyFaulty asked then serverFailure request.method
        else (ofDatabase (ofTables database.tables) loading bundleUrl pack media).respond request) ∧
      (database.tables.Reachable → asked.Nodup) := by
  refine ⟨?_, fun reachable => Request.nodup_queries reachable.consistent⟩
  unfold respond
  rw [answer_eq_unlessFaulty]
  cases database.anyFaulty (request.queries database.tables loading) with
  | false => rfl
  | true =>
      simp only [↓reduceIte]
      rw [withLength_serverError]
      cases request.method <;> rfl

/-- A request by HEAD whose caller cannot be looked up. -/
def headOfStranger : Request where
  method := .head
  target := ⟨"/blocks/".toList, none⟩
  headers := [("authorization", "Bearer x")]

/-- By HEAD, an error of the server is told by the status and the headers alone, for
a response to HEAD never has a body. -/
theorem not_respond_body_of_head :
    ¬ ∀ (database : Database) (loading : RelationLoading) (bundleUrl : String)
        (pack : Sheet → List UInt8) (media : Request → Response) (request : Request),
      (ofDatabase database loading bundleUrl pack media).respond request =
          (ofDatabase (ofTables database.tables) loading bundleUrl pack media).respond request ∨
        ((ofDatabase database loading bundleUrl pack media).respond request).status = 500 ∧
          ((ofDatabase database loading bundleUrl pack media).respond request).body =
            .text "\x7b\"detail\":\"A server error occurred.\"\x7d" := by
  intro always
  have outcome := always .closed .batched "" (fun _ => []) (fun _ => .ofStatus 404) headOfStranger
  rcases outcome with same | ⟨_, hasBody⟩
  · exact absurd (congrArg Response.status same) (by decide +kernel)
  · exact absurd hasBody (by decide +kernel)

end

end Service

end LearnExport.Http
