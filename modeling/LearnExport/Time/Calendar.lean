/-!
# The Gregorian calendar

Days are counted from 1 January 1970, and the calendar's rules hold for all
years, before their adoption too. Years are counted with a year zero. The
computation counts from 1 March, so that the leap day is the last of its year,
in eras of four hundred years, all of which have the same number of days.
-/

namespace LearnExport.Time

/-- A day of the calendar. -/
structure Date where
  year : Int
  month : Nat
  day : Nat
deriving DecidableEq, Repr

/-- The days in four hundred years. -/
def daysPerEra : Int := 146097

/-- The days from 1 March of the year zero to 1 January 1970. -/
def daysToEpoch : Int := 719468

def yearOfEra (dayOfEra : Int) : Int :=
  (dayOfEra - dayOfEra / 1460 + dayOfEra / 36524 - dayOfEra / 146096) / 365

def startOfYear (yearOfEra : Int) : Int :=
  365 * yearOfEra + yearOfEra / 4 - yearOfEra / 100

def Date.ofDays (days : Int) : Date :=
  let shifted := days + daysToEpoch
  let era := shifted / daysPerEra
  let dayOfEra := shifted % daysPerEra
  let year := yearOfEra dayOfEra
  let dayOfYear := dayOfEra - startOfYear year
  let monthFromMarch := (5 * dayOfYear + 2) / 153
  let day := dayOfYear - (153 * monthFromMarch + 2) / 5 + 1
  let month := if monthFromMarch < 10 then monthFromMarch + 3 else monthFromMarch - 9
  { year := 400 * era + year + if month ≤ 2 then 1 else 0
    month := month.toNat
    day := day.toNat }

end LearnExport.Time
