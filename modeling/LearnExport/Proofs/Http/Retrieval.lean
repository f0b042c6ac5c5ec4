import LearnExport.Proofs.Http.NonInterference
import LearnExport.Proofs.Store.Restriction

/-!
# Retrieving the records with one id

A caller who may read an entity retrieves the rows that its listing has with the
id in the path, rendered as a table of their own; without such a row there is
nothing to be found.
-/

namespace LearnExport.Http

namespace Response

@[simp]
theorem status_withLength (response : Response) :
    response.withLength.status = response.status := by
  unfold withLength
  split <;> rfl

end Response

theorem status_withSharing (response : Response) :
    (Service.withSharing response).status = response.status := rfl

theorem status_tableResponse (pack : Sheet → List UInt8) (table : RenderedTable) :
    (tableResponse pack table).status = 200 := by
  unfold tableResponse
  split <;> rfl

theorem rowCount_of_ofRecords {entity : Entity} {records : List entity.Record} {format : Format}
    {table : RenderedTable} (rendered : RenderedTable.ofRecords entity records format = .ok table) :
    table.rowCount = records.length := by
  unfold RenderedTable.ofRecords at rendered
  cases document : render entity (records.map (entity.row ·)) format with
  | error error => simp [document, Except.map] at rendered
  | ok document' =>
      rw [document] at rendered
      rw [← Except.ok.inj rendered]

namespace Service

variable {service : Service} {request : Request} {entity : Entity}

theorem permitted_read {principal : Principal}
    (isCaller : request.caller service.store = .ok (some principal))
    (mayRead : principal.mayRead entity = true) :
    service.permitted request (.read entity) = .ok principal :=
  permitted_eq_ok_iff.mpr ⟨isCaller, mayRead⟩

theorem table_eq_ok {records : List entity.Record} {scope : Scope} {format : Format}
    {table : RenderedTable} (fetched : service.store.fetch entity scope = .ok records)
    (rendered : RenderedTable.ofRecords entity records format = .ok table) :
    service.table entity scope format = .ok table := by
  rw [Service.table, fetched]
  change (RenderedTable.ofRecords entity records format).mapError ApiError.render = .ok table
  rw [rendered]
  rfl

/-- What is retrieved once the caller, the id and the format are known. -/
theorem retrieval_eq_of_permitted {principal : Principal} {segment : List Char} {id : Int64}
    {format : Format} {table : RenderedTable}
    (isPermitted : service.permitted request (.read entity) = .ok principal)
    (isId : segmentId? segment = some id) (isFormat : formatOf request = .ok format)
    (tabled : service.table entity (.one id) format = .ok table) :
    service.retrieval request entity segment =
      if table.rowCount = 0 then .error .notFound else .ok table := by
  rw [retrieval, isPermitted, isId, isFormat]
  change (service.table entity (.one id) format >>= fun table =>
    if table.rowCount = 0 then .error .notFound else .ok table) = _
  rw [tabled]
  rfl

theorem respond_retrieval {segment : List Char} (isGet : request.method = .get)
    (isPath : request.target.path = retrievalPath entity segment) (whole : '/' ∉ segment) :
    service.respond request =
      withSharing
        (respondWith (service.retrieval request entity segment)
          (tableResponse service.pack)).withLength := by
  have answered : service.answer request =
      respondWith (service.retrieval request entity segment) (tableResponse service.pack) := by
    unfold answer
    rw [isPath, Route.ofPath?_retrievalPath entity whole, isGet]
    rfl
  rw [respond, answered, isGet]

/-- Over a store in use, the records with one id are those that the listing has
with this id. A caller who may read the entity and asks for them gets the table
of just these, or the answer that nothing was found if there are none. -/
theorem retrieval_restricts_listing {store : Store} (inUse : store.InUse) (entity : Entity) :
    ∃ listed, store.fetch entity .all = .ok listed ∧ ∀ id,
      store.fetch entity (.one id) = .ok (entity.withId id listed) ∧
        segmentId? (Text.integer id.toInt) = some id ∧
        ∀ (bundleUrl : String) (pack : Sheet → List UInt8) (media : Request → Response)
          (request : Request) (principal : Principal) (segment : List Char) (format : Format)
          (table : RenderedTable),
          request.method = .get → request.target.path = retrievalPath entity segment →
          '/' ∉ segment → segmentId? segment = some id →
          request.caller store = .ok (some principal) → principal.mayRead entity = true →
          formatOf request = .ok format →
          RenderedTable.ofRecords entity (entity.withId id listed) format = .ok table →
          (((Service.mk store bundleUrl pack media).respond request).status = 404 ↔
              ∀ record ∈ listed, entity.recordId record ≠ id) ∧
            ((∀ record ∈ listed, entity.recordId record ≠ id) →
              (Service.mk store bundleUrl pack media).respond request =
                withSharing (errorResponse .notFound).withLength) ∧
            ((∃ record ∈ listed, entity.recordId record = id) →
              (Service.mk store bundleUrl pack media).respond request =
                withSharing (tableResponse pack table).withLength) := by
  obtain ⟨listed, all, one⟩ := inUse.exists_listing entity
  refine ⟨listed, all, fun id => ⟨one id, segmentId?_integer id, ?_⟩⟩
  intro bundleUrl pack media request principal segment format table isGet isPath whole isId
    isCaller mayRead isFormat rendered
  let service := Service.mk store bundleUrl pack media
  have isPermitted : service.permitted request (.read entity) = .ok principal :=
    permitted_read isCaller mayRead
  have retrieved := retrieval_eq_of_permitted isPermitted isId isFormat
    (table_eq_ok (one id) rendered)
  have responded : service.respond request = withSharing (respondWith
      (service.retrieval request entity segment) (tableResponse pack)).withLength :=
    respond_retrieval isGet isPath whole
  have counted : table.rowCount = (entity.withId id listed).length :=
    rowCount_of_ofRecords rendered
  have isEmpty : table.rowCount = 0 ↔ ∀ record ∈ listed, entity.recordId record ≠ id := by
    rw [counted, List.length_eq_zero_iff, Entity.withId_eq_nil_iff]
  have notFound (none : ∀ record ∈ listed, entity.recordId record ≠ id) :
      service.respond request = withSharing (errorResponse .notFound).withLength := by
    rw [responded, retrieved, if_pos (isEmpty.mpr none)]
    rfl
  have found (some : ∃ record ∈ listed, entity.recordId record = id) :
      service.respond request = withSharing (tableResponse pack table).withLength := by
    obtain ⟨record, member, hasId⟩ := some
    rw [responded, retrieved, if_neg fun empty => isEmpty.mp empty record member hasId]
    rfl
  refine ⟨⟨fun is404 record member hasId => ?_, fun none => ?_⟩, notFound, found⟩
  · -- A table is never sent with the status 404.
    have isTable := congrArg Response.status (found ⟨record, member, hasId⟩)
    rw [status_withSharing, Response.status_withLength, status_tableResponse] at isTable
    exact absurd (is404.symm.trans isTable) (by decide)
  · rw [notFound none, status_withSharing, Response.status_withLength]
    rfl

/-- Toolboxes of which two share an id, with a caller who may read them. -/
def memoryOfToolboxes : Memory :=
  { memoryOfReader [] with
    toolboxes := [⟨5, "basics", []⟩, ⟨7, "loops", []⟩, ⟨7, "all", []⟩] }

theorem fetch_memoryOfToolboxes : memoryOfToolboxes.toStore.fetch .toolbox .all =
    .ok [⟨5, "basics", []⟩, ⟨7, "loops", []⟩, ⟨7, "all", []⟩] := by
  have inOrder : Memory.byId EnteredToolbox.id .all memoryOfToolboxes.toolboxes =
      memoryOfToolboxes.toolboxes :=
    List.mergeSort_of_pairwise (by decide)
  change Except.ok ((Memory.byId EnteredToolbox.id .all memoryOfToolboxes.toolboxes).map
    memoryOfToolboxes.joinToolbox) = _
  rw [inOrder]
  simp [memoryOfToolboxes, Memory.joinToolbox, Memory.blocksOf, sortedByRank]

/-- Both toolboxes with the id 7 are retrieved, and there is none with the id 6. -/
theorem retrieval_restricts_listing_of_repeated_id :
    memoryOfToolboxes.toStore.InUse ∧
      (ofStore memoryOfToolboxes.toStore).respond (requestOfReader "/toolboxes/7/") =
        withSharing (tableResponse (ofStore memoryOfToolboxes.toStore).pack ⟨.toolbox, .csv, 2,
          .text "id,name,blocks\n7,loops,[]\n7,all,[]\n"⟩).withLength ∧
      ((ofStore memoryOfToolboxes.toStore).respond
        (requestOfReader "/toolboxes/6/")).status = 404 := by
  obtain ⟨listed, all, one⟩ := retrieval_restricts_listing (.memory memoryOfToolboxes) .toolbox
  obtain rfl := Except.ok.inj (fetch_memoryOfToolboxes.symm.trans all)
  refine ⟨.memory memoryOfToolboxes, ?_, ?_⟩
  · refine ((one 7).2.2 "" _ _ (requestOfReader "/toolboxes/7/")
      ⟨"reader", false, .ofList ["learn.view_toolbox"]⟩ ['7'] .csv
      _ rfl ?_ ?_ ?_ ?_ ?_ ?_ ?_).2.2 ?_
    all_goals decide +kernel
  · refine ((one 6).2.2 "" _ _ (requestOfReader "/toolboxes/6/")
      ⟨"reader", false, .ofList ["learn.view_toolbox"]⟩ ['6'] .csv
      ⟨.toolbox, .csv, 0, .text "id,name,blocks\n"⟩ rfl ?_ ?_ ?_ ?_ ?_ ?_ ?_).1.mpr ?_
    all_goals decide +kernel

end Service

end LearnExport.Http
