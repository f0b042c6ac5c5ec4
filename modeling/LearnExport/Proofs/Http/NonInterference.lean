import LearnExport.Media.Resource
import LearnExport.Proofs.Http.Dependence
import LearnExport.Proofs.Http.Routes
import LearnExport.Store.Memory

/-!
# What a response gives away

A caller learns nothing about records that they may not read. Two stores with
the same tokens that differ only in such records give the same response to every
request of the caller; and under the paths of an entity that the caller may not
read, all requests get one answer, whatever they ask for and whatever the stores
hold.
-/

namespace LearnExport

theorem Principal.mayRead_iff {principal : Principal} {entity : Entity} :
    principal.mayRead entity = true ↔
      principal.isSuperuser = true ∨ entity.viewPermission ∈ principal.permissions.toList := by
  simp [mayRead, hasPermission, Permissions.contains]

namespace Http

theorem Request.caller_eq_some_iff {request : Request} {store : Store} {principal : Principal} :
    request.caller store = .ok (some principal) ↔
      ∃ token, request.token? = some token ∧ store.principal token = .ok (some principal) := by
  unfold caller
  cases request.token? with
  | none => simp
  | some token =>
      cases owned : store.principal token with
      | error error => simp [owned]
      | ok principal? => cases principal? <;> simp [owned]

/-- The caller of a request depends on its headers and on who owns which
token. -/
theorem Request.caller_eq {request other : Request} {first second : Store}
    (sameHeaders : other.headers = request.headers)
    (samePrincipals : ∀ token, first.principal token = second.principal token) :
    request.caller first = other.caller second := by
  have sameToken : other.token? = request.token? := by
    rw [token?, token?, header?, header?, sameHeaders]
  unfold caller
  rw [sameToken]
  cases request.token? with
  | none => rfl
  | some token => simp only [samePrincipals]

/-- That a request is for a path of an entity, whether for the listing or for the
records that some segment stands for. -/
def Request.Concerns (request : Request) (entity : Entity) : Prop :=
  request.target.path = (listingPath entity).toList ∨
    ∃ segment, '/' ∉ segment ∧ request.target.path = retrievalPath entity segment

namespace Service

variable {service : Service} {request : Request} {entity : Entity}

/-- A request is refused for a reason that depends on the caller alone, unless
the caller may do what it asks for. -/
theorem exists_permitted_eq_error {access : Access}
    (notGranted : ∀ principal, request.caller service.store = .ok (some principal) →
      access.isGranted principal ≠ true) :
    ∃ error, service.permitted request access = .error error := by
  cases isPermitted : service.permitted request access with
  | error error => exact ⟨error, rfl⟩
  | ok principal =>
      obtain ⟨isCaller, granted⟩ := permitted_eq_ok_iff.mp isPermitted
      exact absurd granted (notGranted principal isCaller)

/-- The answer to every request of a caller under the paths of an entity that
they may not read. -/
def refusedAnswer (method : Method) (error : ApiError) : Response :=
  match method with
  | .options => withAllow (preflight none)
  | .get | .head => errorResponse error
  | .other _ => withAllow (.ofStatus 405)

theorem answer_of_refused {error : ApiError} (concerns : request.Concerns entity)
    (refused : service.permitted request (.read entity) = .error error) :
    service.answer request = refusedAnswer request.method error := by
  have routed : ∃ route, Route.ofPath? request.target.path = some route ∧
      route.isMedia = false ∧ service.get request route = errorResponse error := by
    rcases concerns with isListing | ⟨segment, whole, isRetrieval⟩
    · refine ⟨.listing entity, ?_, rfl, ?_⟩
      · rw [isListing, Route.ofPath?_listingPath]
      · rw [get, listing_of_refused refused]
        rfl
    · refine ⟨.retrieval entity segment, ?_, rfl, ?_⟩
      · rw [isRetrieval, Route.ofPath?_retrievalPath entity whole]
      · rw [get, retrieval_of_refused segment refused]
        rfl
  obtain ⟨route, isRoute, notMedia, refusal⟩ := routed
  unfold answer
  rw [isRoute]
  cases request.method with
  | get => exact refusal
  | head => exact refusal
  | options => simp [preflight, notMedia, refusedAnswer]
  | other name => rfl

/-- Over two stores that know the same callers, a response depends on records
that the caller may read and on nothing else. Under the paths of an entity that
the caller may not read, it does not even depend on which of these paths is
asked for. -/
theorem respond_eq_of_readable_eq {first second : Store}
    (samePrincipals : ∀ token, first.principal token = second.principal token)
    (bundleUrl : String) (pack : Sheet → List UInt8) (media : Request → Response)
    (request : Request) :
    ((∀ token principal entity, request.token? = some token →
        first.principal token = .ok (some principal) →
        (principal.isSuperuser = true ∨
          entity.viewPermission ∈ principal.permissions.toList) →
        ∀ scope, first.fetch entity scope = second.fetch entity scope) →
      (Service.mk first bundleUrl pack media).respond request =
        (Service.mk second bundleUrl pack media).respond request) ∧
    ∀ (entity : Entity) (other : Request),
      (∀ token principal, request.token? = some token →
        first.principal token = .ok (some principal) →
        ¬(principal.isSuperuser = true ∨
          entity.viewPermission ∈ principal.permissions.toList)) →
      other.method = request.method → other.headers = request.headers →
      request.Concerns entity → other.Concerns entity →
      (Service.mk first bundleUrl pack media).respond request =
        (Service.mk second bundleUrl pack media).respond other := by
  constructor
  · intro sameReadable
    refine AgreeFor.respond_eq ⟨rfl, rfl, rfl, Request.caller_eq rfl samePrincipals, ?_⟩
    intro principal entity scope isCaller mayRead
    obtain ⟨token, isToken, owns⟩ := Request.caller_eq_some_iff.mp isCaller
    exact sameReadable token principal entity isToken owns (Principal.mayRead_iff.mp mayRead) scope
  · intro entity other unreadable sameMethod sameHeaders concerns otherConcerns
    let ofFirst := Service.mk first bundleUrl pack media
    let ofSecond := Service.mk second bundleUrl pack media
    have sameCaller : request.caller first = other.caller second :=
      Request.caller_eq sameHeaders samePrincipals
    obtain ⟨error, refused⟩ : ∃ error, ofFirst.permitted request (.read entity) = .error error := by
      apply exists_permitted_eq_error
      intro principal isCaller mayRead
      obtain ⟨token, isToken, owns⟩ := Request.caller_eq_some_iff.mp isCaller
      exact unreadable token principal isToken owns (Principal.mayRead_iff.mp mayRead)
    have otherRefused : ofSecond.permitted other (.read entity) = .error error := by
      rw [← refused, permitted, permitted]
      exact congrArg (· >>= (Access.read entity).check) sameCaller.symm
    have sameAnswer : ofFirst.answer request = ofSecond.answer other := by
      rw [answer_of_refused concerns refused, answer_of_refused otherConcerns otherRefused,
        sameMethod]
    change ofFirst.respond request = ofSecond.respond other
    rw [respond, respond, sameAnswer, sameMethod]

/-- Some blocks in a memory that knows one caller, who may read toolboxes. -/
def memoryOfReader (blocks : List Block) : Memory :=
  { Memory.empty with
    blocks := blocks
    tokens := [("t", ⟨"reader", false, .ofList ["learn.view_toolbox"]⟩)] }

/-- The service over a store, without an archive and without files. -/
def ofStore (store : Store) : Service where
  store := store
  bundleUrl := ""
  pack _ := []
  media := Media.serve ⟨[]⟩

/-- That caller's request to get a path. -/
def requestOfReader (path : String) : Request where
  method := .get
  target := ⟨path.toList, none⟩
  headers := [("authorization", "Bearer t")]

theorem eq_of_memoryOfReader {path token : String} {principal : Principal}
    (isToken : (requestOfReader path).token? = some token)
    (owns : (memoryOfReader []).toStore.principal token = .ok (some principal)) :
    principal = ⟨"reader", false, .ofList ["learn.view_toolbox"]⟩ := by
  have known : (requestOfReader path).token? = some "t" := by
    change (requestOfReader "").token? = some "t"
    decide
  rw [← Option.some.inj (known.symm.trans isToken)] at owns
  exact (Option.some.inj (Except.ok.inj owns)).symm

/-- A block makes no difference to one who may read toolboxes alone: not to the
listing of toolboxes, nor to whether they ask for all blocks or for this one. -/
theorem respond_eq_of_readable_eq_of_reader :
    (ofStore (memoryOfReader []).toStore).respond (requestOfReader "/toolboxes/") =
      (ofStore (memoryOfReader [⟨7, "while", 1⟩]).toStore).respond
        (requestOfReader "/toolboxes/") ∧
    (ofStore (memoryOfReader []).toStore).respond (requestOfReader "/blocks/") =
      (ofStore (memoryOfReader [⟨7, "while", 1⟩]).toStore).respond
        (requestOfReader "/blocks/7/") := by
  have samePrincipals (token : String) : (memoryOfReader []).toStore.principal token =
      (memoryOfReader [⟨7, "while", 1⟩]).toStore.principal token := rfl
  constructor
  · apply (respond_eq_of_readable_eq samePrincipals "" _ _ (requestOfReader "/toolboxes/")).1
    intro token principal entity isToken owns readable scope
    rw [eq_of_memoryOfReader isToken owns] at readable
    have isToolbox : entity = .toolbox := by
      revert readable
      cases entity <;> decide
    rw [isToolbox]
    simp [Memory.toStore, Memory.fetch, Memory.byId, memoryOfReader, Memory.empty, sortedByRank]
  · apply (respond_eq_of_readable_eq samePrincipals "" _ _ (requestOfReader "/blocks/")).2 .block
      (requestOfReader "/blocks/7/")
    · intro token principal isToken owns
      rw [eq_of_memoryOfReader isToken owns]
      decide
    · rfl
    · rfl
    · exact .inl (by decide)
    · exact .inr ⟨['7'], by decide, by decide⟩

end Service

end Http

end LearnExport
