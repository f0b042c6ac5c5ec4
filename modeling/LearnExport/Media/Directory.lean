import LearnExport.Text.Ascii
import LearnExport.Text.Pieces

/-!
# The media directory

Files that are served as they are, each known by the names on the way to it. A
directory is there if some file lies in it.
-/

namespace LearnExport.Media

/-- A file with the names of the directories it lies in and its own. -/
structure File where
  path : List String
  contents : List UInt8
deriving DecidableEq, Repr

/-- The files of a directory and of those in it. -/
structure Directory where
  files : List File
deriving DecidableEq, Repr

/-- What is found at a path. -/
inductive Found where
  | file (file : File)
  | directory
  | nothing
  /-- The path cannot be a path of a file system. -/
  | failure
deriving DecidableEq, Repr

/-- The number of bytes that a name can have. -/
def nameLimit : Nat := 255

namespace Directory

def isDirectory (directory : Directory) (path : List String) : Bool :=
  path.isEmpty || directory.files.any fun file =>
    path.length < file.path.length && path.isPrefixOf file.path

/-- Follows names from a path on. A name is looked up only in a directory that
is there. -/
def follow (directory : Directory) (path : List String) : List String → Found
  | [] =>
      if directory.isDirectory path then .directory
      else match directory.files.find? fun file => file.path == path with
        | some file => .file file
        | none => .nothing
  | name :: names =>
      if !directory.isDirectory path then .nothing
      else if nameLimit < name.utf8ByteSize then .failure
      else directory.follow (path ++ [name]) names

def find (directory : Directory) (names : List String) : Found :=
  if names.any fun name => name.toList.contains '\x00' then .failure
  else directory.follow [] names

end Directory

/-- The media type of a file by the extension of its name, in any case. -/
def mediaType (name : String) : String :=
  match Text.splitAtFirst '.' name.toList.reverse with
  | some (extension, _ :: _) =>
      match String.ofList (Text.lowerCase extension.reverse) with
      | "txt" => "text/plain"
      | "html" => "text/html"
      | "json" => "application/json"
      | "zip" => "application/zip"
      | _ => "application/octet-stream"
  | _ => "application/octet-stream"

def File.mediaType (file : File) : String :=
  Media.mediaType (file.path.getLast?.getD "")

end LearnExport.Media
