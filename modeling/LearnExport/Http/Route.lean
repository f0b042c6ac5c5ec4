import LearnExport.Entity
import LearnExport.Text.Percent

/-!
# Paths

The service answers under the paths of this module. A path is matched as it is
sent; only the id of a record is percent-decoded. A record's path whose id
cannot be read is still a path of the service.
-/

namespace LearnExport.Http

/-- What a path stands for. -/
inductive Route where
  | index
  | health
  | latestBundle
  | listing (entity : Entity)
  /-- The records of an entity with one id, given as a segment of the path. -/
  | retrieval (entity : Entity) (segment : List Char)
  /-- A file, given by the path below the media directory. -/
  | media (path : List Char)
deriving DecidableEq, Repr

namespace Route

def ofPath? (path : List Char) : Option Route :=
  match (Text.pieces '/' path).map String.ofList with
  | ["", ""] => some index
  | ["", "health"] => some health
  | ["", "latest-bundle", ""] => some latestBundle
  | "" :: "media" :: names =>
      some (media ('/' :: Text.joinWith ['/'] (names.map String.toList)))
  | ["", name, ""] => (Entity.ofPath? name).map listing
  | ["", name, segment, ""] => (Entity.ofPath? name).map (retrieval · segment.toList)
  | _ => none

/-- Whether a route is a file of the media directory. -/
def isMedia : Route → Bool
  | media _ => true
  | index | health | latestBundle | listing _ | retrieval _ _ => false

end Route

/-- An integer of digits with an optional sign, if it has 64 bits. -/
def readId? (text : List Char) : Option Int64 :=
  let number? : Option Int :=
    match text with
    | '-' :: digits => (Text.numeral? digits).map fun number => -(number : Int)
    | '+' :: digits => (Text.numeral? digits).map Int.ofNat
    | digits => (Text.numeral? digits).map Int.ofNat
  number?.bind fun number =>
    if Int64.minValue.toInt ≤ number ∧ number ≤ Int64.maxValue.toInt then some (.ofInt number)
    else none

/-- The id that a segment of a path stands for. -/
def segmentId? (segment : List Char) : Option Int64 :=
  (Text.decodeSegment? segment).bind readId?

end LearnExport.Http
