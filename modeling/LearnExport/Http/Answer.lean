import LearnExport.Error
import LearnExport.Http.Message
import LearnExport.Render.Table
import LearnExport.Text.HeaderValue

/-!
# Answers

The responses that carry a table, the index, the way to the archive or an error.
An error of the service itself says nothing about its cause.
-/

namespace LearnExport.Http

def detail (status : Nat) (message : String) : Response :=
  .ofJson status (.object [("detail", .string message)])

/-- The answer to a request that failed. -/
def errorResponse (error : ApiError) : Response :=
  match error with
  | .unauthenticated | .invalidToken =>
      (detail error.status error.message).withHeader "www-authenticate" "Bearer"
  | .notAcceptable _ =>
      .ofJson error.status (.object
        [("detail", .string error.message),
          ("available_formats", .array (Format.all.map fun format => .string format.name))])
  | .validation field fault =>
      .ofJson error.status (.object [(field, .array [.string fault.message])])
  | .store _ | .render _ => detail error.status "A server error occurred."
  | .forbidden | .notFound | .badRequest _ => detail error.status error.message

/-- The name under which a table is saved. -/
def fileName (entity : Entity) (format : Format) : String :=
  entity.path ++ "." ++ format.name

/-- The answer that carries a table, given how a sheet is packed. All formats but
JSON are offered to be saved. -/
def tableResponse (pack : Sheet → List UInt8) (table : RenderedTable) : Response :=
  let response : Response :=
    { status := 200
      headers := [("content-type", table.format.contentType), ("vary", "Accept")]
      body := table.document.bytes pack }
  match table.format with
  | .json => response
  | .csv | .tsv | .xlsx =>
      response.withHeader "content-disposition"
        ("attachment; filename=\"" ++ fileName table.entity table.format ++ "\"")

def listingPath (entity : Entity) : String :=
  "/" ++ entity.path ++ "/"

/-- The index: the path of every listing and of the way to the archive. -/
def indexResponse : Response :=
  .ofJson 200 (.object
    (Entity.all.map (fun entity => (entity.path, .string (listingPath entity))) ++
      [("latest-bundle", .string "/latest-bundle/")]))

def plainText (status : Nat) (content : String) : Response where
  status := status
  headers := [("content-type", "text/plain; charset=utf-8")]
  body := .text content

/-- The answer that leads to the archive. A location that cannot be a header is
replaced by an apology. -/
def bundleResponse (url : String) : Response :=
  if Text.isHeaderValue url then (Response.ofStatus 302).withHeader "location" url
  else plainText 302 "failed to parse header value"

end LearnExport.Http
