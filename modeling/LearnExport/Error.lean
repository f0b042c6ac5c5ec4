import LearnExport.Entity
import LearnExport.Format.Basic
import LearnExport.Text.Quoted

/-!
# What a request can fail with

Every failure is a cause. Its message is derived from the cause alone, and so is
the status of the answer; the message of a fault inside the service goes to
whoever reads the log, never to the caller.
-/

namespace LearnExport

/-- Why the database gave no answer to a query. -/
inductive DatabaseFault where
  /-- No connection can be taken from a pool that has been closed. -/
  | poolClosed
  /-- The server refused the query. -/
  | server (message : String)
  /-- A stored value has no meaning for its column. -/
  | undecodable (column message : String)
deriving DecidableEq, Repr

def DatabaseFault.message : DatabaseFault → String
  | poolClosed => "attempted to acquire a connection on a closed pool"
  | server message => "error returned from database: " ++ message
  | undecodable column message =>
      "error occurred while decoding column " ++ Text.quoted column ++ ": " ++ message

/-- Why a store could not answer. -/
inductive StoreError where
  | database (fault : DatabaseFault)
  /-- The records of the entity are not looked up by label. -/
  | unlabelled (entity : Entity)
deriving DecidableEq, Repr

def StoreError.message : StoreError → String
  | database fault => "database error: " ++ fault.message
  | unlabelled entity => entity.title ++ " records have no label"

/-- Why a table could not be rendered. -/
inductive RenderError where
  /-- A row is not an object. -/
  | notARow (entity : Entity)
  /-- A text is too long for a spreadsheet cell. -/
  | textTooLong
  /-- A row lies beyond the last row of a spreadsheet. -/
  | tooManyRows
  /-- The finished text could not be taken over. -/
  | buffer (reason : String)
deriving DecidableEq, Repr

def RenderError.message : RenderError → String
  | notARow entity => entity.title ++ " row did not serialize to an object"
  | textTooLong => "xlsx error: String exceeds Excel's limit of 32,767 characters."
  | tooManyRows =>
      "xlsx error: Row or column exceeds Excel's allowed limits (1,048,576 x 16,384)."
  | buffer reason => "csv buffer error: " ++ reason

/-- What is malformed in a request's choice of a format. -/
inductive MalformedRequest where
  /-- The query names no format after `format=`. -/
  | emptyFormat
  /-- The query has the parameter `format` twice. -/
  | repeatedFormat
  /-- The `Accept` header holds characters outside printable ASCII. -/
  | acceptNotText
  /-- A weight in the `Accept` header is no number. -/
  | badWeight (value : String)
  /-- Any other fault, described in words. -/
  | described (message : String)
deriving DecidableEq, Repr

def MalformedRequest.message : MalformedRequest → String
  | emptyFormat => "format must not be empty"
  | repeatedFormat => "Failed to deserialize query string: duplicate field `format`"
  | acceptNotText => "Accept header is not valid text"
  | badWeight value => "bad q-value in Accept: " ++ value
  | described message => message

/-- Why a label cannot be resolved to one record. -/
inductive LabelFault where
  | unknown (label : String)
  | ambiguous
  /-- Any other fault of an input field, described in words. -/
  | described (message : String)
deriving DecidableEq, Repr

/-- The message about a field whose label cannot be resolved. -/
def LabelFault.message : LabelFault → String
  | unknown label => "Object with name=" ++ label ++ " does not exist."
  | ambiguous => "Invalid value."
  | described message => message

/-- Why a request is not answered with what it asks for. -/
inductive ApiError where
  | unauthenticated
  | invalidToken
  | forbidden
  | notFound
  | badRequest (fault : MalformedRequest)
  /-- None of the requested formats is offered. -/
  | notAcceptable (requested : String)
  | validation (field : String) (fault : LabelFault)
  | store (error : StoreError)
  | render (error : RenderError)
deriving DecidableEq, Repr

namespace ApiError

def message : ApiError → String
  | unauthenticated => "Authentication credentials were not provided."
  | invalidToken => "Invalid token."
  | forbidden => "You do not have permission to perform this action."
  | notFound => "Not found."
  | badRequest fault => fault.message
  | notAcceptable requested =>
      "Could not satisfy the request format " ++ Text.quoted requested ++ "."
  | validation field fault => field ++ ": " ++ fault.message
  | store error => error.message
  | render error => error.message

def status : ApiError → Nat
  | unauthenticated | invalidToken => 401
  | forbidden => 403
  | notFound => 404
  | badRequest _ => 400
  | notAcceptable _ => 406
  | validation _ _ => 422
  | store _ | render _ => 500

end ApiError

end LearnExport
