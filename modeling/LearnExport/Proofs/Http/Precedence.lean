import LearnExport.Proofs.Http.Faults
import LearnExport.Proofs.Http.Retrieval
import Mathlib.Order.WellFounded

/-!
# The order of the checks

Six checks decide, one after the other, whether records are sent: who the caller is,
what they may read, whether a segment is an id, which format is chosen, whether the
records can be loaded and rendered, and whether there are any. The first cause of failure
in this order decides the response, whatever else would fail; so requests that agree on
what has been examined up to there get the same response. If nothing fails, the records
that the store returned are sent as they were rendered.
-/

namespace LearnExport.Http

/-- The path of a listing, or of the records that a segment stands for. -/
def tablePath (entity : Entity) : Option (List Char) → List Char
  | none => (listingPath entity).toList
  | some segment => retrievalPath entity segment

/-- A request to a service to get a listing or the records that a segment stands for. -/
structure Inquiry where
  service : Service
  request : Request
  entity : Entity
  segment? : Option (List Char)
  isGet : request.method = .get
  isPath : request.target.path = tablePath entity segment?
  isWhole : ∀ segment ∈ segment?, '/' ∉ segment

/-- Why an inquiry is not answered with a table. -/
inductive Cause where
  | lookupFailed (error : StoreError)
  | unknownToken
  | noToken
  | forbidden
  | notAnId
  | malformedFormat (fault : MalformedRequest)
  | unsupportedFormat (requested : String)
  | loadFailed (error : StoreError)
  | renderingFailed (error : RenderError)
  | noRecord
deriving DecidableEq, Repr

namespace Cause

/-- The number of the check that finds the cause. -/
def check : Cause → Nat
  | lookupFailed _ | unknownToken | noToken => 0
  | forbidden => 1
  | notAnId => 2
  | malformedFormat _ | unsupportedFormat _ => 3
  | loadFailed _ | renderingFailed _ => 4
  | noRecord => 5

def status : Cause → Nat
  | unknownToken | noToken => 401
  | forbidden => 403
  | notAnId | noRecord => 404
  | malformedFormat _ => 400
  | unsupportedFormat _ => 406
  | lookupFailed _ | loadFailed _ | renderingFailed _ => 500

/-- What the caller is told: nothing about a failure of the service itself. -/
def message : Cause → String
  | unknownToken => "Invalid token."
  | noToken => "Authentication credentials were not provided."
  | forbidden => "You do not have permission to perform this action."
  | notAnId | noRecord => "Not found."
  | malformedFormat fault => fault.message
  | unsupportedFormat requested =>
      "Could not satisfy the request format " ++ Text.quoted requested ++ "."
  | lookupFailed _ | loadFailed _ | renderingFailed _ => "A server error occurred."

/-- What the caller is told besides the message. -/
def hints : Cause → List (String × Json)
  | unsupportedFormat _ =>
      [("available_formats", .array [.string "csv", .string "json", .string "tsv",
        .string "xlsx"])]
  | lookupFailed _ | unknownToken | noToken | forbidden | notAnId | malformedFormat _
  | loadFailed _ | renderingFailed _ | noRecord => []

def error : Cause → ApiError
  | lookupFailed error | loadFailed error => .store error
  | unknownToken => .invalidToken
  | noToken => .unauthenticated
  | forbidden => .forbidden
  | notAnId | noRecord => .notFound
  | malformedFormat fault => .badRequest fault
  | unsupportedFormat requested => .notAcceptable requested
  | renderingFailed error => .render error

def response (cause : Cause) : Response :=
  Service.withSharing (errorResponse cause.error).withLength

end Cause

theorem Response.body_ofJson (status : Nat) (value : Json) :
    (Response.ofJson status value).body = .text value.compact := rfl

theorem Response.body_withHeader (response : Response) (name value : String) :
    (response.withHeader name value).body = response.body := rfl

@[simp]
theorem Response.body_withLength (response : Response) :
    response.withLength.body = response.body := by
  unfold withLength
  split <;> rfl

theorem body_withSharing (response : Response) :
    (Service.withSharing response).body = response.body := rfl

theorem body_tableResponse (pack : Sheet → List UInt8) (table : RenderedTable) :
    (tableResponse pack table).body = table.document.bytes pack := by
  unfold tableResponse
  split <;> rfl

theorem Cause.status_response (cause : Cause) : cause.response.status = cause.status := by
  rw [response, status_withSharing, Response.status_withLength]
  cases cause <;> rfl

theorem Cause.body_response (cause : Cause) :
    cause.response.body =
      .text (Json.object (("detail", .string cause.message) :: cause.hints)).compact := by
  rw [response, body_withSharing, Response.body_withLength]
  cases cause <;>
    simp only [error, errorResponse, detail, Response.body_withHeader, Response.body_ofJson] <;>
    rfl

/-- A format is refused as malformed or as not offered, and for no other reason. -/
theorem Service.exists_cause_of_formatOf {request : Request} {error : ApiError}
    (refused : formatOf request = .error error) :
    (∃ fault, error = .badRequest fault) ∨ ∃ requested, error = .notAcceptable requested := by
  unfold formatOf Format.negotiate Format.ofParameter Format.ofAccept Accept.negotiate at refused
  grind

namespace Inquiry

variable {inquiry first second : Inquiry} {check : Nat}

/-- The scope of the records that are asked for, if the segment is an id. -/
def scope? (inquiry : Inquiry) : Option Scope :=
  match inquiry.segment? with
  | none => some .all
  | some segment => (segmentId? segment).map .one

def response (inquiry : Inquiry) : Response :=
  inquiry.service.respond inquiry.request

/-- That there is a cause of failure in an inquiry, whatever other causes there are. -/
def Applies (inquiry : Inquiry) : Cause → Prop
  | .lookupFailed error => ∃ token, inquiry.request.token? = some token ∧
      inquiry.service.store.principal token = .error error
  | .unknownToken => ∃ token, inquiry.request.token? = some token ∧
      inquiry.service.store.principal token = .ok none
  | .noToken => inquiry.request.token? = none
  | .forbidden => ∃ token principal, inquiry.request.token? = some token ∧
      inquiry.service.store.principal token = .ok (some principal) ∧
        principal.mayRead inquiry.entity = false
  | .notAnId => ∃ segment, inquiry.segment? = some segment ∧ segmentId? segment = none
  | .malformedFormat fault => Service.formatOf inquiry.request = .error (.badRequest fault)
  | .unsupportedFormat requested =>
      Service.formatOf inquiry.request = .error (.notAcceptable requested)
  | .loadFailed error => ∃ scope, inquiry.scope? = some scope ∧
      inquiry.service.store.fetch inquiry.entity scope = .error error
  | .renderingFailed error => ∃ scope format records, inquiry.scope? = some scope ∧
      Service.formatOf inquiry.request = .ok format ∧
        inquiry.service.store.fetch inquiry.entity scope = .ok records ∧
        render inquiry.entity (records.map (inquiry.entity.row ·)) format = .error error
  | .noRecord => ∃ id, inquiry.scope? = some (.one id) ∧
      inquiry.service.store.fetch inquiry.entity (.one id) = .ok []

/-- That no check before the one with a number fails. -/
def Passes (inquiry : Inquiry) (check : Nat) : Prop :=
  ∀ cause : Cause, cause.check < check → ¬ inquiry.Applies cause

/-- That a cause is the first in the order of the checks. -/
def DecidedBy (inquiry : Inquiry) (cause : Cause) : Prop :=
  inquiry.Applies cause ∧ inquiry.Passes cause.check

/-- That two inquiries do not differ in what is examined up to a check. -/
structure AgreeUpTo (check : Nat) (first second : Inquiry) : Prop where
  token : second.request.token? = first.request.token?
  principal : ∀ token, first.request.token? = some token →
    second.service.store.principal token = first.service.store.principal token
  entity : 1 ≤ check → second.entity = first.entity
  segment : 2 ≤ check → second.segment? = first.segment?
  query : 3 ≤ check → second.request.target.query = first.request.target.query
  accept : 3 ≤ check → second.request.header? "accept" = first.request.header? "accept"
  fetch : 4 ≤ check → ∀ scope, first.scope? = some scope →
    second.service.store.fetch first.entity scope = first.service.store.fetch first.entity scope

/-- If anything fails, something fails first. -/
theorem exists_decidedBy {cause : Cause} (applies : inquiry.Applies cause) :
    ∃ earliest, inquiry.DecidedBy earliest := by
  obtain ⟨earliest, isCause, least⟩ := (measure Cause.check).wf.has_min
    {cause : Cause | inquiry.Applies cause} ⟨cause, applies⟩
  exact ⟨earliest, isCause, fun earlier before isEarlier => least earlier isEarlier before⟩

namespace Passes

variable (passes : inquiry.Passes check)
include passes

theorem exists_caller (after : 0 < check) :
    ∃ principal, inquiry.request.caller inquiry.service.store = .ok (some principal) := by
  cases isToken : inquiry.request.token? with
  | none => exact absurd isToken (passes .noToken after)
  | some token =>
      cases owned : inquiry.service.store.principal token with
      | error error => exact absurd ⟨token, isToken, owned⟩ (passes (.lookupFailed error) after)
      | ok principal? =>
          cases principal? with
          | none => exact absurd ⟨token, isToken, owned⟩ (passes .unknownToken after)
          | some principal =>
              exact ⟨principal, Request.caller_eq_some_iff.mpr ⟨token, isToken, owned⟩⟩

omit passes in
/-- The first check is whether the caller is known. -/
theorem one_iff : inquiry.Passes 1 ↔
    ∃ principal, inquiry.request.caller inquiry.service.store = .ok (some principal) := by
  refine ⟨fun passes => passes.exists_caller (by decide), fun ⟨principal, isCaller⟩ => ?_⟩
  obtain ⟨token, isToken, owned⟩ := Request.caller_eq_some_iff.mp isCaller
  intro cause isFirst applies
  cases cause with
  | lookupFailed | unknownToken =>
      obtain ⟨other, isOther, notOwned⟩ := applies
      obtain rfl := Option.some.inj (isToken.symm.trans isOther)
      exact absurd (owned.symm.trans notOwned) (by simp)
  | noToken => exact absurd (isToken.symm.trans applies) (by simp)
  | forbidden | notAnId | malformedFormat | unsupportedFormat | loadFailed | renderingFailed
  | noRecord => exact absurd isFirst (by simp [Cause.check])

theorem exists_permitted (after : 1 < check) :
    ∃ principal, inquiry.service.permitted inquiry.request (.read inquiry.entity) =
      .ok principal := by
  obtain ⟨principal, isCaller⟩ := passes.exists_caller (Nat.lt_of_succ_lt after)
  obtain ⟨token, isToken, owned⟩ := Request.caller_eq_some_iff.mp isCaller
  cases mayRead : principal.mayRead inquiry.entity with
  | false =>
      exact absurd ⟨token, principal, isToken, owned, mayRead⟩ (passes .forbidden after)
  | true => exact ⟨principal, Service.permitted_read isCaller mayRead⟩

theorem exists_scope (after : 2 < check) : ∃ scope, inquiry.scope? = some scope := by
  unfold scope?
  cases isSegment : inquiry.segment? with
  | none => exact ⟨.all, rfl⟩
  | some segment =>
      cases isId : segmentId? segment with
      | none => exact absurd ⟨segment, isSegment, isId⟩ (passes .notAnId after)
      | some id => exact ⟨.one id, by simp [isId]⟩

theorem exists_format (after : 3 < check) :
    ∃ format, Service.formatOf inquiry.request = .ok format := by
  cases isFormat : Service.formatOf inquiry.request with
  | ok format => exact ⟨format, rfl⟩
  | error error =>
      rcases Service.exists_cause_of_formatOf isFormat with ⟨fault, rfl⟩ | ⟨requested, rfl⟩
      · exact absurd isFormat (passes (.malformedFormat fault) after)
      · exact absurd isFormat (passes (.unsupportedFormat requested) after)

theorem exists_document (after : 4 < check) {scope : Scope} {format : Format}
    (isScope : inquiry.scope? = some scope)
    (isFormat : Service.formatOf inquiry.request = .ok format) :
    ∃ records document, inquiry.service.store.fetch inquiry.entity scope = .ok records ∧
      render inquiry.entity (records.map (inquiry.entity.row ·)) format = .ok document := by
  cases fetched : inquiry.service.store.fetch inquiry.entity scope with
  | error error => exact absurd ⟨scope, isScope, fetched⟩ (passes (.loadFailed error) after)
  | ok records =>
      cases rendered : render inquiry.entity (records.map (inquiry.entity.row ·)) format with
      | error error =>
          exact absurd ⟨scope, format, records, isScope, isFormat, fetched, rendered⟩
            (passes (.renderingFailed error) after)
      | ok document => exact ⟨records, document, rfl, rendered⟩

end Passes

/-- The table that an inquiry leads to. -/
def table (inquiry : Inquiry) : Except ApiError RenderedTable :=
  match inquiry.segment? with
  | none => inquiry.service.listing inquiry.request inquiry.entity
  | some segment => inquiry.service.retrieval inquiry.request inquiry.entity segment

/-- Only who asks for one id is told that there is nothing. -/
def unlessEmpty (inquiry : Inquiry) (table : RenderedTable) : Except ApiError RenderedTable :=
  if inquiry.segment?.isSome ∧ table.rowCount = 0 then .error .notFound else .ok table

theorem response_eq (inquiry : Inquiry) :
    inquiry.response =
      Service.withSharing
        (respondWith inquiry.table (tableResponse inquiry.service.pack)).withLength := by
  obtain ⟨service, request, entity, segment?, isGet, isPath, isWhole⟩ := inquiry
  cases segment? with
  | none =>
      have answered : service.answer request =
          respondWith (service.listing request entity) (tableResponse service.pack) := by
        unfold Service.answer
        rw [isPath, tablePath, Route.ofPath?_listingPath, isGet]
        rfl
      change service.respond request = _
      rw [Service.respond, answered, isGet]
      rfl
  | some segment => exact Service.respond_retrieval isGet isPath (isWhole segment rfl)

/-- What an inquiry leads to once its caller is let through. -/
def permittedTable (inquiry : Inquiry) : Except ApiError RenderedTable :=
  match inquiry.scope? with
  | none => .error .notFound
  | some scope =>
      Service.formatOf inquiry.request >>= fun format =>
        inquiry.service.table inquiry.entity scope format >>= inquiry.unlessEmpty

theorem table_eq (inquiry : Inquiry) :
    inquiry.table =
      inquiry.service.permitted inquiry.request (.read inquiry.entity) >>= fun _ =>
        inquiry.permittedTable := by
  unfold table permittedTable scope? unlessEmpty
  cases inquiry.segment? with
  | none =>
      have unchanged (result : Except ApiError RenderedTable) :
          (result >>= fun table => .ok table) = result := bind_pure result
      simp only [Option.isSome_none, Bool.false_eq_true, false_and, ↓reduceIte, unchanged]
      rfl
  | some segment =>
      simp only [Service.retrieval_eq_tableOfSegment, Option.isSome_some, true_and]
      unfold Service.tableOfSegment Service.tableOfId
      cases segmentId? segment <;> rfl

theorem isSome_segment?_iff {scope : Scope} (isScope : inquiry.scope? = some scope) :
    inquiry.segment?.isSome = true ↔ ∃ id, scope = .one id := by
  unfold scope? at isScope
  cases isSegment : inquiry.segment? with
  | none =>
      rw [isSegment] at isScope
      obtain rfl := Option.some.inj isScope
      simp
  | some segment =>
      rw [isSegment] at isScope
      obtain ⟨id, _, isOne⟩ := Option.map_eq_some_iff.mp isScope
      exact iff_of_true rfl ⟨id, isOne.symm⟩

/-- The first two checks refuse the caller. -/
theorem permitted_eq_error {cause : Cause} (applies : inquiry.Applies cause)
    (isEarly : cause.check < 2) :
    inquiry.service.permitted inquiry.request (.read inquiry.entity) = .error cause.error := by
  unfold Service.permitted Request.caller
  cases cause with
  | lookupFailed error =>
      obtain ⟨token, isToken, failed⟩ := applies
      simp only [isToken, failed]
      rfl
  | unknownToken =>
      obtain ⟨token, isToken, unknown⟩ := applies
      simp only [isToken, unknown]
      rfl
  | noToken =>
      have isToken : inquiry.request.token? = none := applies
      simp only [isToken]
      rfl
  | forbidden =>
      obtain ⟨token, principal, isToken, owned, mayNot⟩ := applies
      have notGranted : (Access.read inquiry.entity).isGranted principal = false := mayNot
      simp only [isToken, owned]
      change (Access.read inquiry.entity).check (some principal) = _
      simp [Access.check, notGranted, Cause.error]
  | notAnId | malformedFormat | unsupportedFormat | loadFailed | renderingFailed | noRecord =>
      exact absurd isEarly (by simp [Cause.check])

theorem permittedTable_of_scope {scope : Scope} (isScope : inquiry.scope? = some scope) :
    inquiry.permittedTable =
      Service.formatOf inquiry.request >>= fun format =>
        inquiry.service.table inquiry.entity scope format >>= inquiry.unlessEmpty := by
  rw [permittedTable, isScope]

theorem permittedTable_of_refused {scope : Scope} {error : ApiError}
    (isScope : inquiry.scope? = some scope)
    (refused : Service.formatOf inquiry.request = .error error) :
    inquiry.permittedTable = .error error := by
  rw [permittedTable_of_scope isScope, refused]
  rfl

theorem permittedTable_of_format {scope : Scope} {format : Format}
    (isScope : inquiry.scope? = some scope)
    (isFormat : Service.formatOf inquiry.request = .ok format) :
    inquiry.permittedTable =
      inquiry.service.table inquiry.entity scope format >>= inquiry.unlessEmpty := by
  rw [permittedTable_of_scope isScope, isFormat]
  rfl

theorem permittedTable_of_document {scope : Scope} {format : Format}
    {records : List inquiry.entity.Record} {document : Document}
    (isScope : inquiry.scope? = some scope)
    (isFormat : Service.formatOf inquiry.request = .ok format)
    (fetched : inquiry.service.store.fetch inquiry.entity scope = .ok records)
    (rendered : render inquiry.entity (records.map (inquiry.entity.row ·)) format =
      .ok document) :
    inquiry.permittedTable =
      inquiry.unlessEmpty ⟨inquiry.entity, format, records.length, document⟩ := by
  have tabled : RenderedTable.ofRecords inquiry.entity records format =
      .ok ⟨inquiry.entity, format, records.length, document⟩ := by
    rw [RenderedTable.ofRecords, rendered]
    rfl
  rw [permittedTable_of_format isScope isFormat, Service.table_eq_ok fetched tabled]
  rfl

/-- The other checks fail for a caller who is let through. -/
theorem permittedTable_eq_error {cause : Cause} (decided : inquiry.DecidedBy cause)
    (isLate : 2 ≤ cause.check) : inquiry.permittedTable = .error cause.error := by
  obtain ⟨applies, passes⟩ := decided
  cases cause with
  | notAnId =>
      obtain ⟨segment, isSegment, notId⟩ := applies
      simp [permittedTable, scope?, isSegment, notId, Cause.error]
  | malformedFormat fault =>
      obtain ⟨scope, isScope⟩ := passes.exists_scope (by simp [Cause.check])
      exact permittedTable_of_refused isScope applies
  | unsupportedFormat requested =>
      obtain ⟨scope, isScope⟩ := passes.exists_scope (by simp [Cause.check])
      exact permittedTable_of_refused isScope applies
  | loadFailed error =>
      obtain ⟨scope, isScope, failed⟩ := applies
      obtain ⟨format, isFormat⟩ := passes.exists_format (by simp [Cause.check])
      rw [permittedTable_of_format isScope isFormat, Service.table, failed]
      rfl
  | renderingFailed error =>
      obtain ⟨scope, format, records, isScope, isFormat, fetched, failed⟩ := applies
      rw [permittedTable_of_format isScope isFormat, Service.table, fetched]
      change (RenderedTable.ofRecords inquiry.entity records format).mapError .render >>=
        inquiry.unlessEmpty = _
      rw [RenderedTable.ofRecords, failed]
      rfl
  | noRecord =>
      -- The table is rendered before anyone sees that it has no rows.
      obtain ⟨id, isScope, isEmpty⟩ := applies
      obtain ⟨format, isFormat⟩ := passes.exists_format (by decide)
      obtain ⟨records, document, fetched, rendered⟩ :=
        passes.exists_document (by decide) isScope isFormat
      obtain rfl : records = [] := Except.ok.inj (fetched.symm.trans isEmpty)
      rw [permittedTable_of_document isScope isFormat fetched rendered, unlessEmpty,
        if_pos ⟨(isSome_segment?_iff isScope).mpr ⟨id, rfl⟩, rfl⟩]
      rfl
  | lookupFailed | unknownToken | noToken | forbidden =>
      exact absurd isLate (by simp [Cause.check])

theorem DecidedBy.response_eq {cause : Cause} (decided : inquiry.DecidedBy cause) :
    inquiry.response = cause.response := by
  have failed : inquiry.table = .error cause.error := by
    rw [table_eq]
    by_cases isEarly : cause.check < 2
    · rw [permitted_eq_error decided.1 isEarly]
      rfl
    · have isLate := Nat.le_of_not_lt isEarly
      obtain ⟨principal, permitted⟩ := decided.2.exists_permitted isLate
      rw [permitted]
      exact permittedTable_eq_error decided isLate
  rw [Inquiry.response_eq, failed]
  rfl

/-- If all checks are passed, the records are sent that the store returned. -/
theorem exists_response_eq (nothing : ∀ cause, ¬ inquiry.Applies cause) :
    ∃ scope format records document, inquiry.scope? = some scope ∧
      Service.formatOf inquiry.request = .ok format ∧
      inquiry.service.store.fetch inquiry.entity scope = .ok records ∧
      render inquiry.entity (records.map (inquiry.entity.row ·)) format = .ok document ∧
      inquiry.response = Service.withSharing (tableResponse inquiry.service.pack
        ⟨inquiry.entity, format, records.length, document⟩).withLength := by
  have passes : inquiry.Passes 6 := fun cause _ => nothing cause
  obtain ⟨principal, permitted⟩ := passes.exists_permitted (by decide)
  obtain ⟨scope, isScope⟩ := passes.exists_scope (by decide)
  obtain ⟨format, isFormat⟩ := passes.exists_format (by decide)
  obtain ⟨records, document, fetched, rendered⟩ :=
    passes.exists_document (by decide) isScope isFormat
  refine ⟨scope, format, records, document, isScope, isFormat, fetched, rendered, ?_⟩
  have someRecord : ¬(inquiry.segment?.isSome = true ∧ records.length = 0) := by
    rintro ⟨isSome, isEmpty⟩
    obtain ⟨id, rfl⟩ := (isSome_segment?_iff isScope).mp isSome
    obtain rfl := List.eq_nil_of_length_eq_zero isEmpty
    exact nothing .noRecord ⟨id, isScope, fetched⟩
  have tabled : inquiry.table = .ok ⟨inquiry.entity, format, records.length, document⟩ := by
    rw [table_eq, permitted]
    refine (permittedTable_of_document isScope isFormat fetched rendered).trans ?_
    rw [unlessEmpty, if_neg someRecord]
  rw [response_eq, tabled]
  rfl

namespace AgreeUpTo

variable (agree : AgreeUpTo check first second)
include agree

theorem scope?_eq (examined : 2 ≤ check) : second.scope? = first.scope? := by
  rw [scope?, scope?, agree.segment examined]

theorem formatOf_eq (examined : 3 ≤ check) :
    Service.formatOf second.request = Service.formatOf first.request := by
  rw [Service.formatOf, Service.formatOf, agree.query examined, agree.accept examined]

/-- A cause applies to both or to neither. -/
theorem applies_iff {cause : Cause} (examined : cause.check ≤ check) :
    second.Applies cause ↔ first.Applies cause := by
  cases cause with
  | lookupFailed | unknownToken =>
      simp only [Applies, agree.token]
      refine exists_congr fun token => and_congr_right fun isToken => ?_
      rw [agree.principal token isToken]
  | noToken => simp only [Applies, agree.token]
  | forbidden =>
      simp only [Applies, agree.token]
      refine exists_congr fun token => exists_congr fun principal =>
        and_congr_right fun isToken => ?_
      rw [agree.principal token isToken, agree.entity examined]
  | notAnId => simp only [Applies, agree.segment examined]
  | malformedFormat | unsupportedFormat => simp only [Applies, agree.formatOf_eq examined]
  | loadFailed error =>
      have isExamined : 4 ≤ check := examined
      simp only [Applies, agree.scope?_eq (by omega)]
      refine exists_congr fun scope => and_congr_right fun isScope => ?_
      rw [agree.entity (by omega), agree.fetch isExamined scope isScope]
  | renderingFailed error =>
      have isExamined : 4 ≤ check := examined
      simp only [Applies, agree.scope?_eq (by omega), agree.formatOf_eq (by omega)]
      refine exists_congr fun scope => exists_congr fun format => ?_
      -- The type of the records depends on the entity.
      rw [agree.entity (by omega)]
      refine exists_congr fun records => and_congr_right fun isScope => ?_
      rw [agree.fetch isExamined scope isScope]
  | noRecord =>
      have isExamined : 5 ≤ check := examined
      simp only [Applies, agree.scope?_eq (by omega)]
      refine exists_congr fun id => and_congr_right fun isScope => ?_
      rw [agree.entity (by omega), agree.fetch (by omega) _ isScope]

end AgreeUpTo

theorem DecidedBy.of_agreeUpTo {cause : Cause} (decided : first.DecidedBy cause)
    (agree : AgreeUpTo cause.check first second) : second.DecidedBy cause := by
  refine ⟨(agree.applies_iff le_rfl).mpr decided.1, fun earlier before isEarlier => ?_⟩
  exact decided.2 earlier before ((agree.applies_iff before.le).mp isEarlier)

/-- The first cause of failure decides the response; without one, the records are sent
that the store returned, in its order and in the chosen format. Inquiries that do not
differ up to the deciding check get the same response. -/
theorem first_cause_decides (inquiry : Inquiry) :
    ((∃ cause, inquiry.DecidedBy cause) ∨ ∀ cause, ¬ inquiry.Applies cause) ∧
    (∀ cause, inquiry.DecidedBy cause → inquiry.response = cause.response ∧
      inquiry.response.status = cause.status ∧
      inquiry.response.body =
        .text (Json.object (("detail", .string cause.message) :: cause.hints)).compact) ∧
    ((∀ cause, ¬ inquiry.Applies cause) →
      ∃ scope format records document, inquiry.scope? = some scope ∧
        Service.formatOf inquiry.request = .ok format ∧
        inquiry.service.store.fetch inquiry.entity scope = .ok records ∧
        render inquiry.entity (records.map (inquiry.entity.row ·)) format = .ok document ∧
        inquiry.response = Service.withSharing (tableResponse inquiry.service.pack
          ⟨inquiry.entity, format, records.length, document⟩).withLength ∧
        inquiry.response.status = 200 ∧
        inquiry.response.body = document.bytes inquiry.service.pack) ∧
    ∀ (cause : Cause) (other : Inquiry), inquiry.DecidedBy cause →
      AgreeUpTo cause.check inquiry other → other.response = inquiry.response := by
  refine ⟨?_, fun cause decided => ?_, fun nothing => ?_, fun cause other decided agree => ?_⟩
  · rw [or_iff_not_imp_right]
    intro something
    obtain ⟨cause, applies⟩ := not_forall_not.mp something
    exact exists_decidedBy applies
  · have isResponse := decided.response_eq
    exact ⟨isResponse, isResponse ▸ cause.status_response, isResponse ▸ cause.body_response⟩
  · obtain ⟨scope, format, records, document, isScope, isFormat, fetched, rendered, isResponse⟩ :=
      exists_response_eq nothing
    refine ⟨scope, format, records, document, isScope, isFormat, fetched, rendered, isResponse,
      ?_, ?_⟩
    · rw [isResponse, status_withSharing, Response.status_withLength, status_tableResponse]
    · rw [isResponse, body_withSharing, Response.body_withLength, body_tableResponse]
  · rw [(decided.of_agreeUpTo agree).response_eq, decided.response_eq]

/-- An inquiry of the one who may read toolboxes. -/
def ofReader (entity : Entity) (query : Option (List Char)) (segment? : Option (List Char))
    (isWhole : ∀ segment ∈ segment?, '/' ∉ segment) : Inquiry where
  service := .ofStore Service.memoryOfToolboxes.toStore
  request :=
    { method := .get
      target := ⟨tablePath entity segment?, query⟩
      headers := [("authorization", "Bearer t")] }
  entity := entity
  segment? := segment?
  isGet := rfl
  isPath := rfl
  isWhole := isWhole

theorem caller_ofReader (entity : Entity) (query : Option (List Char))
    (segment? : Option (List Char)) (isWhole : ∀ segment ∈ segment?, '/' ∉ segment) :
    (ofReader entity query segment? isWhole).request.caller
        (ofReader entity query segment? isWhole).service.store =
      .ok (some ⟨"reader", false, .ofList ["learn.view_toolbox"]⟩) :=
  Request.caller_eq_some_iff.mpr
    ⟨"t", show (Service.requestOfReader "").token? = some "t" from by decide, rfl⟩

/-- Nothing keeps this caller from the listing of toolboxes. -/
theorem not_applies_ofReader (cause : Cause) :
    ¬ (ofReader .toolbox none none (by decide)).Applies cause := by
  intro applies
  have isFormat : Service.formatOf (ofReader .toolbox none none (by decide)).request =
      .ok .csv := by decide
  cases cause with
  | lookupFailed | unknownToken | noToken =>
      exact Passes.one_iff.mpr ⟨_, caller_ofReader ..⟩ _ (by simp [Cause.check]) applies
  | forbidden =>
      obtain ⟨token, principal, isToken, owned, mayNot⟩ := applies
      have isCaller := Request.caller_eq_some_iff.mpr ⟨token, isToken, owned⟩
      obtain rfl := Option.some.inj (Except.ok.inj ((caller_ofReader ..).symm.trans isCaller))
      exact absurd mayNot (by decide)
  | notAnId =>
      obtain ⟨segment, isSegment, _⟩ := applies
      exact absurd isSegment (by simp [ofReader])
  | malformedFormat | unsupportedFormat =>
      exact absurd (isFormat.symm.trans applies) (by simp)
  | loadFailed =>
      obtain ⟨scope, isScope, failed⟩ := applies
      obtain rfl : Scope.all = scope := Option.some.inj isScope
      exact absurd (Service.fetch_memoryOfToolboxes.symm.trans failed) (by simp)
  | renderingFailed =>
      obtain ⟨scope, format, records, isScope, isChosen, fetched, failed⟩ := applies
      obtain rfl : Scope.all = scope := Option.some.inj isScope
      obtain rfl := Except.ok.inj (isFormat.symm.trans isChosen)
      obtain rfl := Except.ok.inj (Service.fetch_memoryOfToolboxes.symm.trans fetched)
      have rendered : render .toolbox (([⟨5, "basics", []⟩, ⟨7, "loops", []⟩, ⟨7, "all", []⟩] :
          List Toolbox).map (Entity.toolbox.row ·)) .csv =
            .ok (.text "id,name,blocks\n5,basics,[]\n7,loops,[]\n7,all,[]\n") := by
        decide +kernel
      exact absurd (rendered.symm.trans failed) (by simp)
  | noRecord =>
      obtain ⟨id, isScope, _⟩ := applies
      exact absurd (Option.some.inj isScope) (by simp)

/-- Blocks are refused to this caller with a bad segment and a bad query as without them,
and toolboxes are listed. -/
theorem first_cause_decides_of_reader :
    let refused := ofReader .block (some "format=".toList) (some ['x']) (by decide)
    let other := ofReader .block none none (by decide)
    let granted := ofReader .toolbox none none (by decide)
    refused.DecidedBy .forbidden ∧ refused.Applies .notAnId ∧
      refused.Applies (.malformedFormat .emptyFormat) ∧ refused.response.status = 403 ∧
      other.response = refused.response ∧
      (∀ cause, ¬ granted.Applies cause) ∧ granted.response.status = 200 := by
  intro refused other granted
  have decided : refused.DecidedBy .forbidden :=
    ⟨⟨"t", _, by decide, rfl, by decide⟩, Passes.one_iff.mpr ⟨_, caller_ofReader ..⟩⟩
  have agree : AgreeUpTo 1 refused other := by
    refine ⟨rfl, fun _ _ => rfl, fun _ => rfl, ?_, ?_, ?_, ?_⟩
    all_goals exact fun examined => absurd examined (by decide)
  have malformed : Service.formatOf refused.request = .error (.badRequest .emptyFormat) := by
    decide +kernel
  obtain ⟨_, decides, _, sameResponse⟩ := first_cause_decides refused
  obtain ⟨_, _, _, _, _, _, _, _, _, isOk, _⟩ :=
    (first_cause_decides granted).2.2.1 not_applies_ofReader
  exact ⟨decided, ⟨['x'], rfl, by decide⟩, malformed, (decides .forbidden decided).2.1,
    sameResponse .forbidden other decided agree, not_applies_ofReader, isOk⟩

end Inquiry

end LearnExport.Http
