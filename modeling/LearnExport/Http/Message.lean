import LearnExport.Json.Compact
import LearnExport.Text.Percent

/-!
# Requests and responses

A request asks for a target, a path with an optional query, by a method and with
headers. A response has a status, headers and a body. The names of headers are
compared without regard to the case of letters, and where one header is meant
that a request has twice, the first counts.
-/

namespace LearnExport.Http

/-- A request's method. Only the exact names mean a method. -/
inductive Method where
  | get
  | head
  | options
  | other (name : String)
deriving DecidableEq, Repr

def Method.ofName (name : String) : Method :=
  if name = "GET" then get
  else if name = "HEAD" then head
  else if name = "OPTIONS" then options
  else other name

/-- What a request asks for. -/
structure Target where
  path : List Char
  query : Option (List Char)
deriving DecidableEq, Repr

namespace Target

/-- What follows the scheme and the host of an absolute URI; other targets as
they are. -/
def withoutOrigin : List Char → List Char
  | '/' :: rest => '/' :: rest
  | text =>
      match (Text.splitAtFirst ':' text).map (·.2) with
      | some ('/' :: '/' :: rest) =>
          match rest.dropWhile fun character => character != '/' && character != '?' with
          | '/' :: path => '/' :: path
          | other => '/' :: other
      | _ => text

/-- Reads a target. What follows `#` is not sent, and the first question mark
begins the query. -/
def ofText (text : String) : Target :=
  let sent := withoutOrigin (text.toList.takeWhile (· != '#'))
  match Text.splitAtFirst '?' sent with
  | some (path, query) => { path, query := some query }
  | none => { path := sent, query := none }

end Target

/-- A request. -/
structure Request where
  method : Method
  target : Target
  headers : List (String × String)
deriving DecidableEq, Repr

def Request.header? (request : Request) (name : String) : Option String :=
  (request.headers.find? fun header =>
    Text.sameIgnoringCase header.1.toList name.toList).map (·.2)

/-- The bytes that a response carries. -/
abbrev Body := List UInt8

def Body.text (content : String) : Body :=
  Text.utf8Bytes content.toList

/-- A response. -/
structure Response where
  status : Nat
  headers : List (String × String)
  body : Body
deriving DecidableEq, Repr

namespace Response

def ofStatus (status : Nat) : Response where
  status := status
  headers := []
  body := []

def ofJson (status : Nat) (value : Json) : Response where
  status := status
  headers := [("content-type", "application/json")]
  body := .text value.compact

def withHeader (response : Response) (name value : String) : Response :=
  { response with headers := response.headers ++ [(name, value)] }

def hasHeader (response : Response) (name : String) : Bool :=
  response.headers.any fun header => Text.sameIgnoringCase header.1.toList name.toList

/-- The response with a header for the number of bytes of its body, unless it has
one. -/
def withLength (response : Response) : Response :=
  if response.hasHeader "content-length" then response
  else response.withHeader "content-length" (String.ofList (Text.decimal response.body.length))

/-- The response without its body; the headers still describe it. -/
def withoutBody (response : Response) : Response :=
  { response with body := [] }

end Response

end LearnExport.Http
