import LearnExport.Text.Ascii
import LearnExport.Time.Calendar

/-!
# Instants

A point in universal time: a second counted from the start of 1970 and the
nanoseconds that have passed since it began. A leap second has no number of its
own; it is the second thousand million nanoseconds after the second before it,
which need not be the last of a minute. The text of an instant is its calendar
date and time of day.
-/

namespace LearnExport.Time

abbrev nanosPerSecond : Nat := 1000000000

abbrev secondsPerDay : Int := 86400

/-- A point in time. -/
structure Instant where
  seconds : Int
  nanos : Nat
  nanos_lt : nanos < 2 * nanosPerSecond
deriving DecidableEq

namespace Instant

def ofParts? (seconds : Int) (nanos : Nat) : Option Instant :=
  if bound : nanos < 2 * nanosPerSecond then some ⟨seconds, nanos, bound⟩ else none

/-- The start of 1970. -/
def epoch : Instant where
  seconds := 0
  nanos := 0
  nanos_lt := by decide

/-- The instant in whole microseconds; a leap second is the second that follows. -/
def toMicros (instant : Instant) : Int :=
  instant.seconds * 1000000 + (instant.nanos / 1000 : Nat)

/-- The instant of a number of microseconds since the start of 1970. -/
def ofMicros (micros : Int) : Instant where
  seconds := micros / 1000000
  nanos := (micros % 1000000).toNat * 1000
  nanos_lt := by
    have : (micros % 1000000).toNat < 1000000 := by omega
    show _ < 2 * 1000000000
    omega

/-- The text of a year: four digits, or a sign and at least four digits outside
the years 0 to 9999. -/
def yearText (year : Int) : List Char :=
  if 0 ≤ year ∧ year ≤ 9999 then Text.paddedDecimal 4 year.toNat
  else (if year < 0 then '-' else '+') :: Text.paddedDecimal 4 year.natAbs

/-- The text of a fraction of a second, with three, six or nine digits,
whichever are the fewest that show it exactly; nothing for a whole second. -/
def fractionText (nanos : Nat) : List Char :=
  if nanos = 0 then []
  else if nanos % 1000000 = 0 then '.' :: Text.paddedDecimal 3 (nanos / 1000000)
  else if nanos % 1000 = 0 then '.' :: Text.paddedDecimal 6 (nanos / 1000)
  else '.' :: Text.paddedDecimal 9 nanos

def dateText (date : Date) : List Char :=
  yearText date.year ++ '-' :: Text.paddedDecimal 2 date.month ++
    '-' :: Text.paddedDecimal 2 date.day

/-- The text of a time of day, in which a leap second counts as the second that follows: second 60
at the end of a minute. -/
def timeText (secondOfDay : Nat) (nanos : Nat) : List Char :=
  let second := secondOfDay % 60 + nanos / nanosPerSecond
  Text.paddedDecimal 2 (secondOfDay / 3600) ++
    ':' :: Text.paddedDecimal 2 (secondOfDay / 60 % 60) ++
    ':' :: Text.paddedDecimal 2 second ++ fractionText (nanos % nanosPerSecond)

def characters (instant : Instant) : List Char :=
  dateText (.ofDays (instant.seconds / secondsPerDay)) ++
    'T' :: timeText (instant.seconds % secondsPerDay).toNat instant.nanos ++ ['Z']

/-- The text of an instant, as in `2017-10-14T09:00:00.250Z`. -/
def text (instant : Instant) : String :=
  String.ofList instant.characters

end Instant

end LearnExport.Time
