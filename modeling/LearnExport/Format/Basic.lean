import LearnExport.Text.Ascii

/-!
# Export formats

A table is exported as comma-separated or tab-separated values, as JSON or as a
spreadsheet. Each format has a name for the query parameter `format` and a media
type for the `Accept` header, both read without regard to the case of ASCII
letters.
-/

namespace LearnExport

/-- A format in which a table is exported. -/
inductive Format where
  | csv
  | json
  | tsv
  | xlsx
deriving DecidableEq, Repr, Inhabited

namespace Format

/-- All formats, the preferred ones first. -/
def all : List Format := [csv, json, tsv, xlsx]

/-- Every format is offered. -/
theorem mem_all (format : Format) : format ∈ all := by
  cases format <;> decide

/-- The name of a format, which is also the extension of its files. -/
def name : Format → String
  | csv => "csv"
  | json => "json"
  | tsv => "tsv"
  | xlsx => "xlsx"

def mediaType : Format → String
  | csv => "text/csv"
  | json => "application/json"
  | tsv => "text/tab-separated-values"
  | xlsx => "application/vnd.openxmlformats-officedocument.spreadsheetml.sheet"

/-- The content type of a response: the media type, and the character set of a
text that is not JSON. -/
def contentType (format : Format) : String :=
  match format with
  | csv | tsv => format.mediaType ++ "; charset=utf-8"
  | json | xlsx => format.mediaType

/-- The format with a name, in any case. -/
def ofName? (name : List Char) : Option Format :=
  all.find? fun format => Text.sameIgnoringCase format.name.toList name

end Format

end LearnExport
