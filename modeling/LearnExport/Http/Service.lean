import LearnExport.Format.Negotiation
import LearnExport.Http.Answer
import LearnExport.Http.Caller
import LearnExport.Http.Route

/-!
# The service

A request is answered by its path and its method alone up to the point where an
answer needs the store. The checks on a request for records come in one order:
the caller's token, whether the caller may read the entity, the id, the format,
and only then the records themselves. Scripts of any origin may read every
answer. How a sheet is packed into a file and how the files of the media
directory are served is not up to the service.
-/

namespace LearnExport.Http

/-- What the answers of the service depend on. -/
structure Service where
  store : Store
  bundleUrl : String
  /-- Packs a sheet into the file of a spreadsheet, at one time: the file tells when it was
  packed. -/
  pack : Sheet → List UInt8
  /-- Answers requests to get files of the media directory, given by the paths below it. -/
  media : Request → Response

/-- The answer to a request that may have failed. -/
def respondWith {α : Type} (result : Except ApiError α) (response : α → Response) : Response :=
  match result with
  | .ok value => response value
  | .error error => errorResponse error

namespace Service

/-- The caller of a request, if they are allowed to do what it asks for. -/
def permitted (service : Service) (request : Request) (access : Access) :
    Except ApiError Principal := do
  access.check (← request.caller service.store)

def formatOf (request : Request) : Except ApiError Format :=
  Format.negotiate (request.target.query.getD []) (request.header? "accept")

def table (service : Service) (entity : Entity) (scope : Scope) (format : Format) :
    Except ApiError RenderedTable := do
  let records ← (service.store.fetch entity scope).mapError .store
  (RenderedTable.ofRecords entity records format).mapError .render

def listing (service : Service) (request : Request) (entity : Entity) :
    Except ApiError RenderedTable := do
  let _ ← service.permitted request (.read entity)
  let format ← formatOf request
  service.table entity .all format

/-- The table of the records of an entity with the id that a segment stands
for. -/
def retrieval (service : Service) (request : Request) (entity : Entity) (segment : List Char) :
    Except ApiError RenderedTable := do
  let _ ← service.permitted request (.read entity)
  let some id := segmentId? segment | .error .notFound
  let format ← formatOf request
  let table ← service.table entity (.one id) format
  if table.rowCount = 0 then .error .notFound else .ok table

/-- The answer to a request to get what a route stands for. -/
def get (service : Service) (request : Request) : Route → Response
  | .health => plainText 200 "ok"
  | .index => respondWith (service.permitted request .known) fun _ => indexResponse
  | .latestBundle =>
      respondWith (service.permitted request .known) fun _ => bundleResponse service.bundleUrl
  | .listing entity => respondWith (service.listing request entity) (tableResponse service.pack)
  | .retrieval entity segment =>
      respondWith (service.retrieval request entity segment) (tableResponse service.pack)
  | .media path => service.media { request with target := { request.target with path } }

/-- The methods that every path of the service allows, as a header. -/
def withAllow (response : Response) : Response :=
  response.withHeader "allow" "GET,HEAD"

/-- The answer to a script that asks what it may do, whatever the path. -/
def preflight (route? : Option Route) : Response :=
  let response := ((Response.ofStatus 200).withHeader "access-control-allow-methods" "*").withHeader
    "access-control-allow-headers" "*"
  match route? with
  | some route => if route.isMedia then response else withAllow response
  | none => response

/-- The answer to a request, without what every answer has. -/
def answer (service : Service) (request : Request) : Response :=
  let route? := Route.ofPath? request.target.path
  match request.method, route? with
  | .options, _ => preflight route?
  | _, none => .ofStatus 404
  | .get, some route | .head, some route => service.get request route
  | .other _, some _ => withAllow (.ofStatus 405)

/-- An answer with the headers that let scripts of any origin read it. -/
def withSharing (response : Response) : Response :=
  (response.withHeader "access-control-allow-origin" "*").withHeader "vary"
    "origin, access-control-request-method, access-control-request-headers"

/-- The response to a request. -/
def respond (service : Service) (request : Request) : Response :=
  let response := withSharing (service.answer request).withLength
  match request.method with
  | .head => response.withoutBody
  | .get | .options | .other _ => response

end Service

end LearnExport.Http
