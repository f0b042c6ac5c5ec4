import LearnExport.Proofs.Config.Variables
import LearnExport.Proofs.Http.NonInterference
import LearnExport.Proofs.Http.SegmentId

/-!
# The way to the archive

A location is accepted at the start exactly if it can be sent later. The response
that leads to the archive is then one and the same for all callers who are known;
all others are refused and learn no location.
-/

namespace LearnExport

namespace Config

/-- The variables with another location of the archive. -/
def withBundleUrl (lookup : String → Option String) (url : String) : String → Option String :=
  Function.update lookup "LATEST_BUNDLE_URL" (some url)

variable {lookup : String → Option String} {url : String}

theorem withBundleUrl_of_ne {name : String} (isOther : name ≠ "LATEST_BUNDLE_URL") :
    withBundleUrl lookup url name = lookup name :=
  Function.update_of_ne isOther _ _

theorem withBundleUrl_self : withBundleUrl lookup url "LATEST_BUNDLE_URL" = some url :=
  Function.update_self _ _ _

/-- If all other variables are accepted, the location decides whether the configuration is. -/
theorem exists_ofLookup_withBundleUrl_iff
    (valid : ∀ key : Variable, key ≠ .latestBundleUrl → key.Accepts (lookup key.name)) :
    (∃ config, ofLookup (withBundleUrl lookup url) = .ok config) ↔ IsLocation url := by
  rw [exists_ofLookup_iff]
  constructor
  · intro accepted
    exact accepted .latestBundleUrl url withBundleUrl_self
  · intro isLocation key
    by_cases isBundle : key = .latestBundleUrl
    · subst isBundle
      intro text isText
      obtain rfl : url = text := Option.some.inj (withBundleUrl_self.symm.trans isText)
      exact isLocation
    · have isOther : key.name ≠ "LATEST_BUNDLE_URL" := by
        cases key with
        | latestBundleUrl => exact absurd rfl isBundle
        | _ => decide
      rw [withBundleUrl_of_ne isOther]
      exact valid key isBundle

theorem latestBundleUrl_of_withBundleUrl {config : Config}
    (accepted : ofLookup (withBundleUrl lookup url) = .ok config) :
    config.latestBundleUrl = url := by
  rw [(holds_of_ofLookup accepted).latestBundleUrl, withBundleUrl_self, Option.getD_some]

/-- The location of a configuration that is read can be sent, also where it is the default. -/
theorem isHeaderValue_of_ofLookup {config : Config} (accepted : ofLookup lookup = .ok config) :
    Text.isHeaderValue config.latestBundleUrl = true := by
  rw [(holds_of_ofLookup accepted).latestBundleUrl]
  cases isText : lookup "LATEST_BUNDLE_URL" with
  | none => decide
  | some text =>
      have isLocation := exists_ofLookup_iff.mp ⟨config, accepted⟩ .latestBundleUrl text isText
      exact Text.isHeaderValue_iff.mpr isLocation.2

end Config

namespace Http

/-- The locations that a response names in its headers. -/
def Response.locations (response : Response) : List String :=
  (response.headers.filter fun header =>
    Text.sameIgnoringCase header.1.toList "location".toList).map (·.2)

/-- The response that leads to another location. -/
def redirect (url : String) : Response where
  status := 302
  headers :=
    [("location", url), ("content-length", "0"), ("access-control-allow-origin", "*"),
      ("vary", "origin, access-control-request-method, access-control-request-headers")]
  body := []

/-- That a request asks for the way to the archive. -/
structure Request.AsksForBundle (request : Request) : Prop where
  method : request.method = .get
  path : request.target.path = "/latest-bundle/".toList

namespace Service

variable {service : Service} {request : Request} {url : String}

theorem respond_bundle (asks : request.AsksForBundle) :
    service.respond request = sent .get
      (respondWith (service.permitted request .known)
        fun _ => bundleResponse service.bundleUrl) := by
  have isRoute : Route.ofPath? "/latest-bundle/".toList = some .latestBundle := by decide
  rw [respond_eq_sent, asks.method]
  unfold answer
  rw [asks.path, isRoute, asks.method]
  rfl

/-- Every known caller is led to the archive, whatever they may do. -/
theorem respond_bundle_of_token {token : String} {principal : Principal}
    (asks : request.AsksForBundle) (isToken : request.token? = some token)
    (isOwner : service.store.principal token = .ok (some principal)) :
    service.respond request = sent .get (bundleResponse service.bundleUrl) := by
  have isCaller := Request.caller_eq_some_iff.mpr ⟨token, isToken, isOwner⟩
  have isPermitted : service.permitted request .known = .ok principal :=
    permitted_eq_ok_iff.mpr ⟨isCaller, rfl⟩
  rw [respond_bundle asks, isPermitted]
  rfl

theorem sent_refusal {error : ApiError}
    (isRefusal : error = .unauthenticated ∨ error = .invalidToken) :
    (sent .get (errorResponse error)).status = 401 ∧
      (sent .get (errorResponse error)).locations = [] := by
  rcases isRefusal with rfl | rfl <;> decide +kernel

/-- Nobody else is told where the archive is. -/
theorem respond_bundle_of_unknown (asks : request.AsksForBundle)
    (unknown : request.token? = none ∨
      ∃ token, request.token? = some token ∧ service.store.principal token = .ok none) :
    (service.respond request).status = 401 ∧ (service.respond request).locations = [] := by
  rw [respond_bundle asks]
  rcases unknown with noToken | ⟨token, isToken, notOwned⟩
  · have isRefused : service.permitted request .known = .error .unauthenticated := by
      simp [permitted, Request.caller, noToken, Access.check, bind, Except.bind]
    rw [isRefused]
    exact sent_refusal (.inl rfl)
  · have isRefused : service.permitted request .known = .error .invalidToken := by
      simp [permitted, Request.caller, isToken, notOwned, bind, Except.bind]
    rw [isRefused]
    exact sent_refusal (.inr rfl)

theorem sent_bundleResponse (usable : Text.isHeaderValue url = true) :
    sent .get (bundleResponse url) = redirect url := by
  have noBytes : String.ofList (Text.decimal 0) = "0" := by decide
  have noLength : ((Response.ofStatus 302).withHeader "location" url).hasHeader
      "content-length" = false := by
    change (Text.sameIgnoringCase "location".toList "content-length".toList || false) = false
    decide
  rw [bundleResponse, if_pos usable, redirect, ← noBytes, sent, Response.withLength, noLength]
  rfl

theorem locations_redirect (url : String) : (redirect url).locations = [url] := by
  simp [Response.locations, redirect, Text.sameIgnoringCase, Text.lowerCase]

theorem locations_of_unusable (unusable : Text.isHeaderValue url = false) :
    (sent .get (bundleResponse url)).locations = [] := by
  have isApology : bundleResponse url = plainText 302 "failed to parse header value" :=
    if_neg (by simp [unusable])
  rw [isApology]
  decide +kernel

/-- A location that is not empty is accepted at the start exactly if the response to a known
caller carries it. A service that starts then leads every known caller to it by one response,
and refuses all others without telling them. -/
theorem bundle_redirect_total_and_constant (url : String) (nonempty : url ≠ "")
    (lookup : String → Option String)
    (valid : ∀ key : Config.Variable, key ≠ .latestBundleUrl → key.Accepts (lookup key.name)) :
    (∀ (store : Store) (pack : Sheet → List UInt8) (media : Request → Response)
      (request : Request) (token : String) (principal : Principal),
      request.AsksForBundle → request.token? = some token →
      store.principal token = .ok (some principal) →
      ((∃ config, Config.ofLookup (Config.withBundleUrl lookup url) = .ok config) ↔
        ∃ location ∈ ((Service.mk store url pack media).respond request).locations,
          location.toUTF8 = url.toUTF8)) ∧
    (∀ config, Config.ofLookup (Config.withBundleUrl lookup url) = .ok config →
      config.latestBundleUrl = url) ∧
    (∀ environment config, Config.ofLookup environment = .ok config →
      ∀ (store : Store) (pack : Sheet → List UInt8) (media : Request → Response)
        (request : Request) (token : String) (principal : Principal),
        request.AsksForBundle → request.token? = some token →
        store.principal token = .ok (some principal) →
        (Service.mk store config.latestBundleUrl pack media).respond request =
          redirect config.latestBundleUrl) ∧
    ∀ (service : Service) (request : Request), request.AsksForBundle →
      (request.token? = none ∨
        ∃ token, request.token? = some token ∧ service.store.principal token = .ok none) →
      (service.respond request).status = 401 ∧ (service.respond request).locations = [] := by
  refine ⟨fun store pack media request token principal asks isToken isOwner => ?_,
    fun config => Config.latestBundleUrl_of_withBundleUrl,
    fun environment config accepted store pack media request token principal asks isToken
      isOwner => ?_,
    fun service request => respond_bundle_of_unknown⟩
  · have responded : (Service.mk store url pack media).respond request =
        sent .get (bundleResponse url) := respond_bundle_of_token asks isToken isOwner
    rw [Config.exists_ofLookup_withBundleUrl_iff valid, responded]
    cases usable : Text.isHeaderValue url with
    | true =>
        have isLocation : IsLocation url := ⟨nonempty, Text.isHeaderValue_iff.mp usable⟩
        rw [sent_bundleResponse usable, locations_redirect]
        simp [isLocation]
    | false =>
        have notLocation : ¬ IsLocation url := by
          rintro ⟨_, allowed⟩
          exact absurd (usable.symm.trans (Text.isHeaderValue_iff.mpr allowed)) (by decide)
        rw [locations_of_unusable usable]
        simp [notLocation]
  · rw [respond_bundle_of_token asks isToken isOwner]
    exact sent_bundleResponse (Config.isHeaderValue_of_ofLookup accepted)

/-- A location with a letter outside the alphabet is accepted and sent to a caller who may read
toolboxes only, and an anonymous caller is refused. One with a line feed is not accepted. -/
theorem bundle_redirect_total_and_constant_of_reader :
    let request := requestOfReader "/latest-bundle/"
    let anonymous := { request with headers := [] }
    let lookup := Config.lookupOf [("DATABASE_URL", "learn")]
    let service := ofStore memoryOfToolboxes.toStore
    (∃ config, Config.ofLookup (Config.withBundleUrl lookup "/médias.zip") = .ok config ∧
      { service with bundleUrl := config.latestBundleUrl }.respond request =
        redirect "/médias.zip" ∧
      ({ service with bundleUrl := config.latestBundleUrl }.respond anonymous).status = 401) ∧
    ¬ ∃ config, Config.ofLookup (Config.withBundleUrl lookup "/media\n.zip") = .ok config := by
  intro request anonymous lookup service
  have valid : ∀ key : Config.Variable, key ≠ .latestBundleUrl → key.Accepts (lookup key.name) :=
    fun key _ => Config.Variable.check_eq_ok_iff.mp (by cases key <;> decide)
  have asks : request.AsksForBundle := ⟨rfl, rfl⟩
  have isToken : request.token? = some "t" := by decide +kernel
  have isOwner : memoryOfToolboxes.toStore.principal "t" =
      .ok (some ⟨"reader", false, .ofList ["learn.view_toolbox"]⟩) := by decide +kernel
  constructor
  · obtain ⟨carries, kept, redirects, refuses⟩ :=
      bundle_redirect_total_and_constant "/médias.zip" (by decide) lookup valid
    have isCarried : ∃ location ∈
        ({ service with bundleUrl := "/médias.zip" }.respond request).locations,
          location.toUTF8 = "/médias.zip".toUTF8 := by
      rw [respond_bundle_of_token asks isToken isOwner, sent_bundleResponse (by decide),
        locations_redirect]
      exact ⟨_, List.mem_singleton_self _, rfl⟩
    obtain ⟨config, accepted⟩ := (carries _ _ _ request _ _ asks isToken isOwner).mpr isCarried
    refine ⟨config, accepted, ?_, ?_⟩
    · exact (redirects _ config accepted _ _ _ request _ _ asks isToken isOwner).trans
        (congrArg redirect (kept config accepted))
    · exact (refuses _ anonymous ⟨rfl, rfl⟩ (.inl (by decide +kernel))).1
  · obtain ⟨carries, _⟩ :=
      bundle_redirect_total_and_constant "/media\n.zip" (by decide) lookup valid
    rw [carries _ service.pack service.media request _ _ asks isToken isOwner,
      respond_bundle_of_token asks isToken isOwner, locations_of_unusable (by decide)]
    exact fun ⟨_, isLocation, _⟩ => absurd isLocation List.not_mem_nil

end Service

end Http

end LearnExport
