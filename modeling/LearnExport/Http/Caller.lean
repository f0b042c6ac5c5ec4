import LearnExport.Http.Message
import LearnExport.Store.Basic
import LearnExport.Text.HeaderValue
import LearnExport.Text.Blank

/-!
# Who sent a request

The token of a request stands in its first `Authorization` header, after the
scheme `Bearer` and a space. A request without such a header, or with one that
cannot be read so, is anonymous; one with a token that nobody owns is refused.
-/

namespace LearnExport.Http

/-- The name of the scheme, in lower case. -/
def bearerScheme : List Char := "bearer".toList

/-- The token in the value of an `Authorization` header, if it is there and the
value is text. -/
def bearerToken? (value : String) : Option String :=
  let characters := value.toList
  let scheme := characters.take bearerScheme.length
  match characters.drop bearerScheme.length with
  | ' ' :: rest =>
      if Text.isHeaderText value && Text.lowerCase scheme == bearerScheme then
        some (String.ofList (Text.trimStart rest))
      else none
  | _ => none

/-- The token of a request, if it has one that can be read. -/
def Request.token? (request : Request) : Option String :=
  (request.header? "authorization").bind bearerToken?

/-- The owner of the token of a request; nobody for an anonymous one. -/
def Request.caller (request : Request) (store : Store) : Except ApiError (Option Principal) :=
  match request.token? with
  | none => .ok none
  | some token =>
      match store.principal token with
      | .error error => .error (.store error)
      | .ok none => .error .invalidToken
      | .ok (some principal) => .ok (some principal)

end LearnExport.Http
