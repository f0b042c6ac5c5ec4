import LearnExport.Http.Service

/-!
# What a response depends on

A store has a say in the response to a request in two ways only: it names the
caller, and it lists the records of entities that this caller may read. Services
that agree on these, on the location of the archive, on how sheets are packed and
on how the media directory is served give the same response.
-/

namespace LearnExport.Http

/-- Two services that do not differ in anything that the response to a request
may depend on. -/
structure Service.AgreeFor (first second : Service) (request : Request) : Prop where
  bundleUrl : first.bundleUrl = second.bundleUrl
  pack : first.pack = second.pack
  media : first.media = second.media
  caller : request.caller first.store = request.caller second.store
  fetch (principal : Principal) (entity : Entity) (scope : Scope)
    (isCaller : request.caller first.store = .ok (some principal))
    (mayRead : principal.mayRead entity = true) :
    first.store.fetch entity scope = second.store.fetch entity scope

namespace Service

variable {service first second : Service} {request : Request}

/-- A request is let through if its caller is known and may do what it asks
for. -/
theorem permitted_eq_ok_iff {access : Access} {principal : Principal} :
    service.permitted request access = .ok principal ↔
      request.caller service.store = .ok (some principal) ∧
        access.isGranted principal = true := by
  change (request.caller service.store >>= access.check) = _ ↔ _
  cases called : request.caller service.store with
  | error error => simp [bind, Except.bind]
  | ok caller? =>
      cases caller? with
      | none => simp [bind, Except.bind, Access.check]
      | some caller =>
          by_cases granted : access.isGranted caller = true
          · simp only [bind, Except.bind, Access.check, granted, ↓reduceIte, Except.ok.injEq,
              Option.some.injEq]
            exact ⟨fun same => ⟨same, same ▸ granted⟩, fun ⟨same, _⟩ => same⟩
          · simp only [bind, Except.bind, Access.check, granted, Bool.false_eq_true, ↓reduceIte,
              reduceCtorEq, Except.ok.injEq, Option.some.injEq, false_iff, not_and]
            intro same
            exact same ▸ granted

/-- A listing is refused for the same reason as its caller. -/
theorem listing_of_refused {entity : Entity} {error : ApiError}
    (refused : service.permitted request (.read entity) = .error error) :
    service.listing request entity = .error error := by
  rw [listing, refused]
  rfl

/-- A retrieval is refused for the same reason as its caller. -/
theorem retrieval_of_refused {entity : Entity} {error : ApiError} (segment : List Char)
    (refused : service.permitted request (.read entity) = .error error) :
    service.retrieval request entity segment = .error error := by
  rw [retrieval, refused]
  rfl

namespace AgreeFor

variable (agree : first.AgreeFor second request)
include agree

theorem permitted_eq (access : Access) :
    first.permitted request access = second.permitted request access := by
  rw [permitted, permitted, agree.caller]

theorem table_eq {entity : Entity} {principal : Principal}
    (isPermitted : first.permitted request (.read entity) = .ok principal) (scope : Scope)
    (format : Format) : first.table entity scope format = second.table entity scope format := by
  obtain ⟨isCaller, mayRead⟩ := permitted_eq_ok_iff.mp isPermitted
  rw [table, table, agree.fetch principal entity scope isCaller mayRead]

theorem listing_eq (entity : Entity) :
    first.listing request entity = second.listing request entity := by
  have samePermission := agree.permitted_eq (.read entity)
  cases isPermitted : first.permitted request (.read entity) with
  | error error =>
      rw [listing_of_refused isPermitted, listing_of_refused (samePermission ▸ isPermitted)]
  | ok principal =>
      rw [listing, listing, ← samePermission, isPermitted]
      simp only [agree.table_eq isPermitted]

theorem retrieval_eq (entity : Entity) (segment : List Char) :
    first.retrieval request entity segment = second.retrieval request entity segment := by
  have samePermission := agree.permitted_eq (.read entity)
  cases isPermitted : first.permitted request (.read entity) with
  | error error =>
      rw [retrieval_of_refused segment isPermitted,
        retrieval_of_refused segment (samePermission ▸ isPermitted)]
  | ok principal =>
      rw [retrieval, retrieval, ← samePermission, isPermitted]
      simp only [agree.table_eq isPermitted]

theorem get_eq (route : Route) : first.get request route = second.get request route := by
  cases route with
  | index => rw [get, get, agree.permitted_eq]
  | health => rfl
  | latestBundle => rw [get, get, agree.permitted_eq, agree.bundleUrl]
  | listing entity => rw [get, get, agree.listing_eq, agree.pack]
  | retrieval entity segment => rw [get, get, agree.retrieval_eq, agree.pack]
  | media path => rw [get, get, agree.media]

/-- The response to a request depends on nothing else. -/
theorem respond_eq : first.respond request = second.respond request := by
  have sameAnswer : first.answer request = second.answer request := by
    unfold answer
    cases request.method with
    | get | head =>
        cases Route.ofPath? request.target.path with
        | none => rfl
        | some route => exact agree.get_eq route
    | options => rfl
    | other name => cases Route.ofPath? request.target.path <;> rfl
  rw [respond, respond, sameAnswer]

end AgreeFor

end Service

end LearnExport.Http
