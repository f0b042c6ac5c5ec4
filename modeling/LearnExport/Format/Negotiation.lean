import LearnExport.Format.Accept
import LearnExport.Text.HeaderValue
import LearnExport.Text.Percent

/-!
# Choosing a format for a request

The query parameter `format` decides alone if there is one; else the first
`Accept` header decides, and without one the format is CSV.
-/

namespace LearnExport

def formatParameter (query : List Char) : Except MalformedRequest (Option (List Char)) :=
  match (Text.formPairs query).filter fun pair => pair.1 == "format".toList with
  | [] => .ok none
  | [pair] => .ok (some pair.2)
  | _ => .error .repeatedFormat

/-- The format that the query parameter `format` names. White space around the
name counts for nothing, but a message shows it. -/
def Format.ofParameter (value : List Char) : Except ApiError Format :=
  let name := Text.trim value
  if name.isEmpty then .error (.badRequest .emptyFormat)
  else match Format.ofName? name with
    | some format => .ok format
    | none => .error (.notAcceptable (String.ofList value))

/-- The format that the `Accept` header chooses, if the request has one. -/
def Format.ofAccept : Option String → Except ApiError Format
  | none => .ok .csv
  | some header =>
      if Text.isHeaderText header then Accept.negotiate header.toList
      else .error (.badRequest .acceptNotText)

/-- The format for a request with the given query and first `Accept` header. -/
def Format.negotiate (query : List Char) (accept : Option String) : Except ApiError Format :=
  match formatParameter query with
  | .error fault => .error (.badRequest fault)
  | .ok (some value) => Format.ofParameter value
  | .ok none => Format.ofAccept accept

end LearnExport
