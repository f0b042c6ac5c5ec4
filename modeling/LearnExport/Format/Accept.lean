import LearnExport.Error
import LearnExport.Format.Weight
import LearnExport.Text.Blank
import LearnExport.Text.Pieces

/-!
# Choosing a format by an `Accept` header

The header lists media ranges with weights. The entry of greatest weight that
covers an offered format decides, an earlier one before a later one of the same
weight, and it decides for the first format it covers. An exact media type whose
weight is not positive refuses its format, also where a wildcard would cover it.
A header without entries accepts anything.
-/

namespace LearnExport.Accept

/-- A media range with its weight. -/
structure Entry where
  range : List Char
  weight : Weight
deriving DecidableEq, Repr

/-- The weight after one parameter of an entry: the parameter's value if it is
named `q`, else the weight before. -/
def applyParameter (weight : Weight) (parameter : List Char) : Except MalformedRequest Weight :=
  match Text.splitAtFirst '=' parameter with
  | none => .ok weight
  | some (name, value) =>
      if Text.sameIgnoringCase (Text.trim name) ['q'] then
        match Weight.parse? (Text.trim value) with
        | some given => .ok given
        | none => .error (.badWeight (String.ofList value))
      else .ok weight

/-- The weight that the parameters of an entry give it; the last one named `q`
counts. -/
def weightOf : Weight → List (List Char) → Except MalformedRequest Weight
  | weight, [] => .ok weight
  | weight, parameter :: others =>
      match applyParameter weight parameter with
      | .ok next => weightOf next others
      | .error fault => .error fault

/-- Reads one piece of the header between commas; a piece without a media range
is no entry, whatever its parameters are. -/
def readEntry (piece : List Char) : Except MalformedRequest (Option Entry) :=
  let parts := Text.pieces ';' piece
  let range := Text.trim (parts.headD [])
  if range.isEmpty then .ok none
  else (weightOf .one parts.tail).map fun weight => some ⟨range, weight⟩

/-- The entries among some pieces of the header, in order. -/
def readEntries : List (List Char) → Except MalformedRequest (List Entry)
  | [] => .ok []
  | piece :: others =>
      match readEntry piece with
      | .error fault => .error fault
      | .ok entry? => (readEntries others).map fun entries => entry?.toList ++ entries

def entries (header : List Char) : Except MalformedRequest (List Entry) :=
  readEntries (Text.pieces ',' header)

/-- Whether a format falls under a media range: `*/*`, the type of its media
type with `/*`, or its media type. -/
def covers (range : List Char) (format : Format) : Bool :=
  let mediaType := format.mediaType.toList
  match Text.splitAtFirst '/' range with
  | some (kind, ['*']) =>
      kind == ['*'] || match Text.splitAtFirst '/' mediaType with
        | some (own, _) => Text.sameIgnoringCase own kind
        | none => false
  | _ => Text.sameIgnoringCase mediaType range

def Entry.refuses (entry : Entry) (format : Format) : Bool :=
  !entry.weight.isPositive && !entry.range.contains '*' && covers entry.range format

def isRefused (entries : List Entry) (format : Format) : Bool :=
  entries.any fun entry => entry.refuses format

/-- The entries that ask for a format, the weightiest first; those of equal
weight keep their order. -/
def ranked (entries : List Entry) : List Entry :=
  (entries.filter fun entry => entry.weight.isPositive).mergeSort
    fun first second => first.weight.atLeast second.weight

/-- The first format that an entry covers and no entry refuses. -/
def Entry.offer? (all : List Entry) (entry : Entry) : Option Format :=
  Format.all.find? fun format => covers entry.range format && !isRefused all format

def choose? (entries : List Entry) : Option Format :=
  if entries.isEmpty then some .csv
  else (ranked entries).findSome? fun entry => entry.offer? entries

def negotiate (header : List Char) : Except ApiError Format :=
  match entries header with
  | .error fault => .error (.badRequest fault)
  | .ok found =>
      match choose? found with
      | some format => .ok format
      | none => .error (.notAcceptable (String.ofList header))

end LearnExport.Accept
