import LearnExport.Http.Message
import LearnExport.Media.ByteRange
import LearnExport.Media.Directory
import LearnExport.Text.HeaderValue

/-!
# Serving the media directory

A path is decoded and followed name by name; one that would lead out of the
directory leads nowhere. A directory is answered with the file `index.html` in
it, if the path ends in a slash; otherwise the client is sent to the path that
does. A file may be asked for in part. Nothing that is said of the service
depends on this way to serve files, which tells no dates and knows few types.
-/

namespace LearnExport.Media

/-- The names on a decoded path; nothing for a path that goes up or starts at
the root. -/
def namesOf? (path : List Char) : Option (List String) :=
  let names := ((Text.pieces '/' path).map String.ofList).filter fun name =>
    name != "" && name != "."
  if path.head? = some '/' || names.contains ".." then none else some names

def requestedNames? (path : List Char) : Option (List String) :=
  (Text.decodeSegment? (path.dropWhile (· == '/'))).bind namesOf?

def wholeFile (file : File) : Http.Response where
  status := 200
  headers := [("content-type", file.mediaType), ("accept-ranges", "bytes")]
  body := file.contents

/-- The text of a number in a header. -/
def number (value : Nat) : String :=
  String.ofList (Text.decimal value)

/-- The answer to a request for parts of a file that are not sent. -/
def unsatisfiable (file : File) (body : Http.Body) : Http.Response :=
  { wholeFile file with status := 416, body := body }.withHeader "content-range"
    ("bytes */" ++ number file.contents.length)

def partOfFile (file : File) (range : ByteRange) : Http.Response :=
  { wholeFile file with status := 206, body := range.select file.contents }.withHeader
    "content-range"
    ("bytes " ++ number range.first ++ "-" ++ number range.last ++ "/" ++
      number file.contents.length)

/-- The answer with the parts of a file that are asked for. Only one part at a
time is sent. -/
def partialFile (file : File) (header : String) : Http.Response :=
  match ByteRange.list? file.contents.length header.toList with
  | none => unsatisfiable file []
  | some [range] => partOfFile file range
  | some _ => unsatisfiable file (.text "Cannot serve multipart range requests")

/-- The answer with a file, or with parts of it if the request asks for them in
a header that can be read. -/
def fileResponse (file : File) (range? : Option String) : Http.Response :=
  match range?.filter Text.isHeaderText with
  | some range => partialFile file range
  | none => wholeFile file

/-- The location of a directory: its path with a slash at the end. -/
def directoryLocation (path : List Char) (query : Option (List Char)) : String :=
  String.ofList (path ++ '/' :: (query.map ('?' :: ·)).getD [])

/-- The answer for what is found, other than a directory. -/
def foundResponse (found : Found) (range? : Option String) : Http.Response :=
  match found with
  | .file file => fileResponse file range?
  | .directory | .nothing => .ofStatus 404
  | .failure => .ofStatus 500

/-- The answer to a request to get what lies at a path in a directory. -/
def serve (directory : Directory) (request : Http.Request) : Http.Response :=
  let path := request.target.path
  let range? := request.header? "range"
  match requestedNames? path with
  | none => .ofStatus 404
  | some names =>
      match directory.find names with
      | .directory =>
          if path.getLast? = some '/' then
            foundResponse (directory.find (names ++ ["index.html"])) range?
          else
            (Http.Response.ofStatus 307).withHeader "location"
              (directoryLocation path request.target.query)
      | found => foundResponse found range?

end LearnExport.Media
