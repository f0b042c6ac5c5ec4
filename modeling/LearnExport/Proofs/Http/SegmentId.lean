import LearnExport.Proofs.Http.Faults
import LearnExport.Proofs.Http.Retrieval
import LearnExport.Proofs.Text.SegmentText
import LearnExport.Proofs.Text.SignedNumerals

/-!
# The segment that an id is read from

A segment of a path denotes an integer if its text is one, however the characters are
written. If the integer has 64 bits, the records with this id are asked for, and the
spelling of the segment makes no difference to the response. With any other segment
nothing is found: what lies outside the range is never taken for another id.
-/

namespace LearnExport.Http

/-- That a segment stands for the text of an integer. -/
def Denotes (segment : List Char) (integer : Int) : Prop :=
  ∃ text, Text.StandsFor segment text ∧ Text.IsInteger text integer

/-- That an integer is the id that a record may have. -/
def IsId (integer : Int) : Prop :=
  -2 ^ 63 ≤ integer ∧ integer ≤ 2 ^ 63 - 1

section Reading

variable {text segment : List Char} {integer : Int} {id : Int64}

theorem isId_iff :
    IsId integer ↔ Int64.minValue.toInt ≤ integer ∧ integer ≤ Int64.maxValue.toInt := by
  rw [IsId, Int64.toInt_minValue, Int64.toInt_maxValue]

theorem isId_toInt (id : Int64) : IsId id.toInt :=
  isId_iff.mpr ⟨id.minValue_le_toInt, id.toInt_le⟩

theorem IsId.toInt_ofInt (isId : IsId integer) : (Int64.ofInt integer).toInt = integer :=
  Int64.toInt_ofInt_of_le isId.1 (Int.lt_of_le_sub_one isId.2)

/-- The integer that a text is, of whatever size. -/
def integer? : List Char → Option Int
  | '-' :: digits => (Text.numeral? digits).map fun number : Nat => -(number : Int)
  | '+' :: digits => (Text.numeral? digits).map Int.ofNat
  | digits => (Text.numeral? digits).map Int.ofNat

theorem readId?_eq_bind (text : List Char) :
    readId? text = (integer? text).bind fun integer =>
      if Int64.minValue.toInt ≤ integer ∧ integer ≤ Int64.maxValue.toInt then some (.ofInt integer)
      else none := by
  cases text with
  | nil => rfl
  | cons first digits =>
      by_cases isMinus : first = '-'
      · subst isMinus
        cases isNumeral : Text.numeral? digits <;> simp [readId?, integer?, isNumeral]
      · by_cases isPlus : first = '+'
        · subst isPlus
          simp [readId?, integer?]
        · simp [readId?, integer?, isMinus, isPlus]

theorem integer?_eq_some_iff : integer? text = some integer ↔ Text.IsInteger text integer := by
  constructor
  · intro read
    unfold integer? at read
    split at read
    · obtain ⟨number, isNumeral, rfl⟩ := Option.map_eq_some_iff.mp read
      exact .minus (Text.numeral?_eq_some_iff.mp isNumeral)
    · obtain ⟨number, isNumeral, rfl⟩ := Option.map_eq_some_iff.mp read
      exact .count (.plus (Text.numeral?_eq_some_iff.mp isNumeral))
    · obtain ⟨number, isNumeral, rfl⟩ := Option.map_eq_some_iff.mp read
      exact .count (.unsigned (Text.numeral?_eq_some_iff.mp isNumeral))
  · intro isInteger
    cases isInteger with
    | minus isNumeral => simp [integer?, Text.numeral?_eq_some_iff.mpr isNumeral]
    | count isCount =>
        cases isCount with
        | plus isNumeral => simp [integer?, Text.numeral?_eq_some_iff.mpr isNumeral]
        | unsigned isNumeral =>
            have read := Text.numeral?_eq_some_iff.mpr isNumeral
            unfold integer?
            split
            · exact absurd isNumeral (Text.IsNumeral.ne_cons rfl)
            · exact absurd isNumeral (Text.IsNumeral.ne_cons rfl)
            · rw [read]
              rfl

theorem segmentId?_of_denotes (denotes : Denotes segment integer) (isId : IsId integer) :
    segmentId? segment = some (.ofInt integer) := by
  obtain ⟨text, standsFor, isInteger⟩ := denotes
  rw [segmentId?, Text.decodeSegment?_eq_some_iff.mpr standsFor, Option.bind_some,
    readId?_eq_bind, integer?_eq_some_iff.mpr isInteger, Option.bind_some,
    if_pos (isId_iff.mp isId)]

theorem exists_denotes_of_segmentId? (read : segmentId? segment = some id) :
    Denotes segment id.toInt := by
  obtain ⟨text, decoded, isText⟩ := Option.bind_eq_some_iff.mp read
  rw [readId?_eq_bind] at isText
  obtain ⟨integer, isInteger, inRange⟩ := Option.bind_eq_some_iff.mp isText
  split at inRange
  · rename_i bounds
    rw [← Option.some.inj inRange, (isId_iff.mpr bounds).toInt_ofInt]
    exact ⟨text, Text.decodeSegment?_eq_some_iff.mp decoded, integer?_eq_some_iff.mp isInteger⟩
  · exact absurd inRange (by simp)

/-- A segment is no id if it denotes none, be it that it denotes no integer at all. -/
theorem segmentId?_eq_none_iff :
    segmentId? segment = none ↔ ∀ integer, Denotes segment integer → ¬ IsId integer := by
  constructor
  · intro notRead integer denotes isId
    exact absurd (notRead.symm.trans (segmentId?_of_denotes denotes isId)) (by simp)
  · intro noId
    apply Option.eq_none_iff_forall_ne_some.mpr
    intro id read
    exact noId id.toInt (exists_denotes_of_segmentId? read) (isId_toInt id)

theorem Denotes.unique {other : Int} (denotes : Denotes segment integer)
    (isOther : Denotes segment other) : integer = other := by
  obtain ⟨text, standsFor, isInteger⟩ := denotes
  obtain ⟨otherText, standsForOther, isOtherInteger⟩ := isOther
  obtain rfl := standsFor.unique standsForOther
  apply Option.some.inj
  rw [← integer?_eq_some_iff.mpr isInteger, integer?_eq_some_iff.mpr isOtherInteger]

/-- Segments that denote one integer are read alike. -/
theorem Denotes.segmentId?_eq {other : List Char} (denotes : Denotes segment integer)
    (otherDenotes : Denotes other integer) : segmentId? other = segmentId? segment := by
  by_cases isId : IsId integer
  · rw [segmentId?_of_denotes denotes isId, segmentId?_of_denotes otherDenotes isId]
  · have none {spelling : List Char} (spells : Denotes spelling integer) :
        segmentId? spelling = none :=
      segmentId?_eq_none_iff.mpr fun other isOther => spells.unique isOther ▸ isId
    rw [none denotes, none otherDenotes]

end Reading

/-- The request for the records that a segment stands for, otherwise as it is. -/
def Request.forSegment (request : Request) (entity : Entity) (segment : List Char) : Request :=
  { request with target := { request.target with path := retrievalPath entity segment } }

@[simp]
theorem Request.method_forSegment (request : Request) (entity : Entity) (segment : List Char) :
    (request.forSegment entity segment).method = request.method := rfl

namespace Service

/-- What is sent for an answer: by HEAD everything but the body. -/
def sent (method : Method) (answer : Response) : Response :=
  match method with
  | .head => (withSharing answer.withLength).withoutBody
  | .get | .options | .other _ => withSharing answer.withLength

/-- What a caller who may read an entity gets if these records have the id that is asked for. -/
def tableOfFound {entity : Entity} (request : Request)
    (found : Except StoreError (List entity.Record)) : Except ApiError RenderedTable := do
  let format ← formatOf request
  let records ← found.mapError .store
  if records.isEmpty then .error .notFound
  else (RenderedTable.ofRecords entity records format).mapError .render

/-- The response that says that nothing was found. -/
def nothingFound (method : Method) : Response where
  status := 404
  headers :=
    [("content-type", "application/json"), ("content-length", "23"),
      ("access-control-allow-origin", "*"),
      ("vary", "origin, access-control-request-method, access-control-request-headers")]
  body :=
    match method with
    | .head => []
    | .get | .options | .other _ => .text "\x7b\"detail\":\"Not found.\"\x7d"

variable {service : Service} {request : Request} {entity : Entity} {segment : List Char}

theorem respond_eq_sent (service : Service) (request : Request) :
    service.respond request = sent request.method (service.answer request) := by
  unfold respond sent
  cases request.method <;> rfl

theorem sent_notFound (method : Method) :
    sent method (errorResponse .notFound) = nothingFound method := by
  have whole : withSharing (errorResponse .notFound).withLength = nothingFound .get := by
    decide +kernel
  unfold sent
  rw [whole]
  cases method <;> rfl

/-- A table without rows can be written in every format. -/
theorem exists_ofRecords_nil (entity : Entity) (format : Format) :
    ∃ table, RenderedTable.ofRecords entity [] format = .ok table := by
  cases format <;> exact ⟨_, rfl⟩

theorem tableOfId_eq_tableOfFound (id : Int64) :
    (formatOf request >>= service.tableOfId entity id) =
      tableOfFound request (service.store.fetch entity (.one id)) := by
  unfold tableOfFound tableOfId table
  cases formatOf request with
  | error error => rfl
  | ok format =>
      cases service.store.fetch entity (.one id) with
      | error error => rfl
      | ok records =>
          cases rendered : RenderedTable.ofRecords entity records format with
          | error error =>
              cases records with
              | nil =>
                  obtain ⟨table, isTable⟩ := exists_ofRecords_nil entity format
                  exact absurd (rendered.symm.trans isTable) (by simp)
              | cons first others => simp [bind, Except.bind, Except.mapError, rendered]
          | ok table =>
              have counted := rowCount_of_ofRecords rendered
              cases records with
              | nil => simp [bind, Except.bind, Except.mapError, rendered, counted]
              | cons first others => simp [bind, Except.bind, Except.mapError, rendered, counted]

theorem answer_forSegment (service : Service) (request : Request) (entity : Entity)
    (whole : '/' ∉ segment) :
    service.answer (request.forSegment entity segment) =
      match request.method with
      | .get | .head =>
          respondWith (service.retrieval (request.forSegment entity segment) entity segment)
            (tableResponse service.pack)
      | .options => preflight (some (.retrieval entity segment))
      | .other _ => withAllow (.ofStatus 405) := by
  have isRoute : Route.ofPath? (request.forSegment entity segment).target.path =
      some (.retrieval entity segment) := Route.ofPath?_retrievalPath entity whole
  unfold answer
  rw [isRoute, Request.method_forSegment]
  cases request.method <;> rfl

/-- What a caller is sent who may read the entity. -/
theorem respond_forSegment {principal : Principal}
    (isRead : request.method = .get ∨ request.method = .head)
    (isCaller : request.caller service.store = .ok (some principal))
    (mayRead : principal.mayRead entity = true) (whole : '/' ∉ segment) :
    service.respond (request.forSegment entity segment) =
      sent request.method
        (respondWith (service.tableOfSegment request entity segment)
          (tableResponse service.pack)) := by
  have isPermitted : service.permitted (request.forSegment entity segment) (.read entity) =
      .ok principal := permitted_read isCaller mayRead
  rw [respond_eq_sent, answer_forSegment service request entity whole,
    retrieval_eq_tableOfSegment, isPermitted, Request.method_forSegment]
  rcases isRead with isGet | isHead
  · rw [isGet]
    rfl
  · rw [isHead]
    rfl

theorem respond_of_id {principal : Principal} {id : Int64}
    (isRead : request.method = .get ∨ request.method = .head)
    (isCaller : request.caller service.store = .ok (some principal))
    (mayRead : principal.mayRead entity = true) (whole : '/' ∉ segment)
    (isSegment : segmentId? segment = some id) :
    service.respond (request.forSegment entity segment) =
      sent request.method (respondWith
        (tableOfFound request (service.store.fetch entity (.one id)))
        (tableResponse service.pack)) := by
  rw [respond_forSegment isRead isCaller mayRead whole, tableOfSegment, isSegment]
  simp only [tableOfId_eq_tableOfFound]

theorem respond_of_no_id {principal : Principal}
    (isRead : request.method = .get ∨ request.method = .head)
    (isCaller : request.caller service.store = .ok (some principal))
    (mayRead : principal.mayRead entity = true) (whole : '/' ∉ segment)
    (notSegment : segmentId? segment = none) :
    service.respond (request.forSegment entity segment) = nothingFound request.method := by
  rw [respond_forSegment isRead isCaller mayRead whole, tableOfSegment, notSegment,
    ← sent_notFound]
  rfl

/-- Segments that are read alike make no difference, whoever asks and by whatever method. -/
theorem respond_forSegment_eq {other : List Char} (same : segmentId? other = segmentId? segment)
    (whole : '/' ∉ segment) (otherWhole : '/' ∉ other) :
    service.respond (request.forSegment entity other) =
      service.respond (request.forSegment entity segment) := by
  have sameRetrieval :
      service.retrieval (request.forSegment entity other) entity other =
        service.retrieval (request.forSegment entity segment) entity segment := by
    unfold retrieval
    rw [same]
    rfl
  rw [respond_eq_sent, respond_eq_sent, answer_forSegment service request entity whole,
    answer_forSegment service request entity otherWhole, sameRetrieval]
  rfl

/-- A segment that denotes an id selects the records with this id, and every spelling of the
id does the same; with any other segment nothing is found. -/
theorem segment_selects_records (service : Service) (request : Request) (entity : Entity)
    (segment : List Char) (whole : '/' ∉ segment) :
    (∀ other integer, '/' ∉ other → Denotes segment integer → Denotes other integer →
      service.respond (request.forSegment entity other) =
        service.respond (request.forSegment entity segment)) ∧
    ∀ principal, (request.method = .get ∨ request.method = .head) →
      request.caller service.store = .ok (some principal) → principal.mayRead entity = true →
      (∀ integer, Denotes segment integer → IsId integer →
        service.respond (request.forSegment entity segment) =
            sent request.method (respondWith (tableOfFound request
              (service.store.fetch entity (.one (.ofInt integer))))
              (tableResponse service.pack)) ∧
          (service.store.InUse → ∃ listed, service.store.fetch entity .all = .ok listed ∧
            service.store.fetch entity (.one (.ofInt integer)) =
              .ok (listed.filter fun record => (entity.recordId record).toInt = integer))) ∧
      ((∀ integer, Denotes segment integer → ¬ IsId integer) →
        service.respond (request.forSegment entity segment) = nothingFound request.method) ∧
      ∀ text, Text.StandsFor segment text →
        ((∀ character ∈ text, character.isDigit = false) ∨
          ∃ character ∈ text,
            character.isDigit = false ∧ character ≠ '+' ∧ character ≠ '-') →
        service.respond (request.forSegment entity segment) = nothingFound request.method := by
  refine ⟨fun other integer otherWhole denotes otherDenotes => ?_,
    fun principal isRead isCaller mayRead => ⟨fun integer denotes isId => ⟨?_, fun inUse => ?_⟩,
      fun noId => ?_, fun text standsFor unlike => ?_⟩⟩
  · exact respond_forSegment_eq (denotes.segmentId?_eq otherDenotes) whole otherWhole
  · exact respond_of_id isRead isCaller mayRead whole (segmentId?_of_denotes denotes isId)
  · obtain ⟨listed, all, one⟩ := inUse.exists_listing entity
    refine ⟨listed, all, (one (.ofInt integer)).trans (congrArg Except.ok ?_)⟩
    apply List.filter_congr
    intro record _
    rw [Bool.eq_iff_iff, beq_iff_eq, decide_eq_true_iff, ← Int64.toInt_inj, isId.toInt_ofInt]
  · exact respond_of_no_id isRead isCaller mayRead whole (segmentId?_eq_none_iff.mpr noId)
  · apply respond_of_no_id isRead isCaller mayRead whole
    apply segmentId?_eq_none_iff.mpr
    rintro integer ⟨integerText, standsForInteger, isInteger⟩ _
    obtain rfl := standsFor.unique standsForInteger
    rcases unlike with noDigit | ⟨character, member, notDigit, notPlus, notMinus⟩
    · obtain ⟨digit, member, isDigit⟩ := isInteger.exists_digit
      exact absurd ((noDigit digit member).symm.trans isDigit) (by decide)
    · rcases isInteger.isDigit_or_sign member with isDigit | isPlus | isMinus
      · exact absurd (notDigit.symm.trans isDigit) (by decide)
      · exact notPlus isPlus
      · exact notMinus isMinus

/-- A spelling of 7 with a sign, a leading zero and characters written as their bytes selects
the toolboxes with this id, as `7` does; the number that is greater by 2 ^ 64 selects none. -/
theorem segment_selects_records_of_spelling :
    let service := ofStore memoryOfToolboxes.toStore
    let request := requestOfReader "/"
    let found := withSharing (tableResponse service.pack ⟨.toolbox, .csv, 2,
      .text "id,name,blocks\n7,loops,[]\n7,all,[]\n"⟩).withLength
    service.respond (request.forSegment .toolbox "%2B0%37".toList) = found ∧
      service.respond (request.forSegment .toolbox ['7']) = found ∧
      service.respond (request.forSegment .toolbox "18446744073709551623".toList) =
        nothingFound .get := by
  intro service request found
  have isCaller : request.caller service.store =
      .ok (some ⟨"reader", false, .ofList ["learn.view_toolbox"]⟩) := by decide +kernel
  have spelled : Denotes "%2B0%37".toList 7 :=
    ⟨"+07".toList, Text.decodeSegment?_eq_some_iff.mp (by decide +kernel),
      integer?_eq_some_iff.mp (by decide +kernel)⟩
  have plain : Denotes ['7'] 7 :=
    ⟨['7'], Text.decodeSegment?_eq_some_iff.mp (by decide +kernel),
      integer?_eq_some_iff.mp (by decide +kernel)⟩
  have tooLarge : ∀ integer, Denotes "18446744073709551623".toList integer → ¬ IsId integer :=
    segmentId?_eq_none_iff.mp (by decide +kernel)
  obtain ⟨alike, reads⟩ :=
    segment_selects_records service request .toolbox "%2B0%37".toList (by decide)
  obtain ⟨isResponse, listing⟩ :=
    (reads _ (.inl rfl) isCaller (by decide)).1 7 spelled ⟨by decide, by decide⟩
  obtain ⟨listed, all, one⟩ := listing (.memory memoryOfToolboxes)
  obtain rfl := Except.ok.inj (fetch_memoryOfToolboxes.symm.trans all)
  have isFound : service.respond (request.forSegment .toolbox "%2B0%37".toList) = found := by
    rw [isResponse, one]
    decide +kernel
  refine ⟨isFound, (alike ['7'] 7 (by decide) spelled plain).trans isFound, ?_⟩
  obtain ⟨_, others⟩ :=
    segment_selects_records service request .toolbox "18446744073709551623".toList (by decide)
  exact (others _ (.inl rfl) isCaller (by decide)).2.1 tooLarge

end Service

end LearnExport.Http
