import LearnExport.Time.Calendar

/-!
# Days are counted back from dates

An era is four centuries, a century is cycles of four years, and a cycle is four
years of 365 days. Only the last year of a cycle may have one day more, and in the
last cycle of a century only if the century is the last of the era. Every day of
an era has its place in this division, and its year is the one that the calendar
computes. So the number of days is found again from year, month and day, and no
two days have the same date.
-/

namespace LearnExport.Time

/-- The place of a day in its era: the centuries, cycles and years before it, and
the days since the first of March. -/
structure EraPlace where
  century : Int
  cycle : Int
  year : Int
  day : Int
  century_bounds : 0 ≤ century ∧ century ≤ 3
  cycle_bounds : 0 ≤ cycle ∧ cycle ≤ 24
  year_bounds : 0 ≤ year ∧ year ≤ 3
  day_bounds : 0 ≤ day ∧ day ≤ 365
  leap_year : day = 365 → year = 3
  leap_century : day = 365 → cycle = 24 → century = 3

namespace EraPlace

def dayOfEra (place : EraPlace) : Int :=
  36524 * place.century + 1461 * place.cycle + 365 * place.year + place.day

def yearOfEra (place : EraPlace) : Int :=
  100 * place.century + 4 * place.cycle + place.year

theorem exists_dayOfEra_eq {dayOfEra : Int} (nonnegative : 0 ≤ dayOfEra)
    (inEra : dayOfEra < daysPerEra) : ∃ place : EraPlace, place.dayOfEra = dayOfEra := by
  have bound : dayOfEra < 146097 := inEra
  -- The last century of an era has one day more than the others.
  obtain ⟨century, ofCentury, isCentury, inCentury, split⟩ :
      ∃ century ofCentury, (0 ≤ century ∧ century ≤ 3) ∧
        (0 ≤ ofCentury ∧ ofCentury ≤ 36524 ∧ (ofCentury = 36524 → century = 3)) ∧
        dayOfEra = 36524 * century + ofCentury :=
    ⟨min 3 (dayOfEra / 36524), dayOfEra - 36524 * min 3 (dayOfEra / 36524), by omega, by omega,
      by omega⟩
  obtain ⟨cycle, ofCycle, isCycle, inCycle, splitCentury⟩ :
      ∃ cycle ofCycle, (0 ≤ cycle ∧ cycle ≤ 24) ∧ (0 ≤ ofCycle ∧ ofCycle ≤ 1460) ∧
        ofCentury = 1461 * cycle + ofCycle :=
    ⟨ofCentury / 1461, ofCentury % 1461, by omega, by omega, by omega⟩
  -- So has the last year of a cycle.
  obtain ⟨year, day, isYear, isDay, splitCycle⟩ :
      ∃ year day, (0 ≤ year ∧ year ≤ 3) ∧ (0 ≤ day ∧ day ≤ 365 ∧ (day = 365 → year = 3)) ∧
        ofCycle = 365 * year + day :=
    ⟨min 3 (ofCycle / 365), ofCycle - 365 * min 3 (ofCycle / 365), by omega, by omega, by omega⟩
  refine ⟨⟨century, cycle, year, day, isCentury, isCycle, isYear, ⟨isDay.1, isDay.2.1⟩, isDay.2.2,
    by omega⟩, ?_⟩
  simp only [EraPlace.dayOfEra]
  omega

theorem yearOfEra_dayOfEra (place : EraPlace) :
    Time.yearOfEra place.dayOfEra = place.yearOfEra := by
  obtain ⟨century, cycle, year, day, isCentury, isCycle, isYear, isDay, leapYear, leapCentury⟩ :=
    place
  -- The last day of the era belongs to the last century, not to a fifth one.
  have centuries : (36524 * century + 1461 * cycle + 365 * year + day) / 36524 -
      (36524 * century + 1461 * cycle + 365 * year + day) / 146096 = century := by
    by_cases lastDay : day = 365 ∧ cycle = 24
    · obtain ⟨rfl, rfl⟩ := lastDay
      obtain rfl := leapYear rfl
      obtain rfl := leapCentury rfl rfl
      rfl
    · obtain ⟨ofCentury, split, before⟩ : ∃ ofCentury, 1461 * cycle + 365 * year + day = ofCentury ∧
          0 ≤ ofCentury ∧ ofCentury ≤ 36523 := ⟨_, rfl, by omega, by omega⟩
      rw [Int.add_assoc, Int.add_assoc, ← Int.add_assoc (1461 * cycle), split]
      have first : (36524 * century + ofCentury) / 36524 = century := by omega
      have second : (36524 * century + ofCentury) / 146096 = 0 := by omega
      rw [first, second, Int.sub_zero]
  -- A leap day is passed once in 1460 days, counting the leap day itself.
  obtain ⟨passed, isLess, leapDays⟩ : ∃ passed, (0 ≤ day - passed ∧ day - passed < 365) ∧
      (36524 * century + 1461 * cycle + 365 * year + day) / 1460 =
        25 * century + cycle + passed := by
    by_cases late : 1460 ≤ 24 * century + cycle + 365 * year + day
    · exact ⟨1, by omega, by omega⟩
    · exact ⟨0, by omega, by omega⟩
  simp only [EraPlace.dayOfEra, EraPlace.yearOfEra, Time.yearOfEra, leapDays]
  rw [Int.add_sub_assoc, centuries]
  clear centuries leapDays
  omega

theorem yearOfEra_bounds (place : EraPlace) :
    0 ≤ place.yearOfEra ∧ place.yearOfEra < 400 := by
  have := place.century_bounds
  have := place.cycle_bounds
  have := place.year_bounds
  rw [EraPlace.yearOfEra]
  omega

theorem startOfYear_yearOfEra (place : EraPlace) :
    startOfYear place.yearOfEra + place.day = place.dayOfEra := by
  obtain ⟨century, cycle, year, day, isCentury, isCycle, isYear, isDay, leapYear, leapCentury⟩ :=
    place
  simp only [EraPlace.dayOfEra, EraPlace.yearOfEra, startOfYear]
  omega

end EraPlace

/-- The days from the start of 1970 to a date. -/
def Date.toDays (date : Date) : Int :=
  let year := date.year - if date.month ≤ 2 then 1 else 0
  let monthFromMarch : Int := if date.month ≤ 2 then date.month + 9 else date.month - 3
  daysPerEra * (year / 400) + startOfYear (year % 400) +
    ((153 * monthFromMarch + 2) / 5 + date.day - 1) - daysToEpoch

/-- January and February belong to the year that began in the March before. -/
theorem Date.toDays_fromMarch (era : Int) {year monthFromMarch day : Int}
    (yearBounds : 0 ≤ year ∧ year < 400) (monthBounds : 0 ≤ monthFromMarch ∧ monthFromMarch < 12)
    (nonnegative : 0 ≤ day) :
    Date.toDays
        { year := 400 * era + year +
            if (if monthFromMarch < 10 then monthFromMarch + 3 else monthFromMarch - 9) ≤ 2 then 1
            else 0
          month := (if monthFromMarch < 10 then monthFromMarch + 3 else monthFromMarch - 9).toNat
          day := day.toNat } =
      daysPerEra * era + startOfYear year + ((153 * monthFromMarch + 2) / 5 + day - 1) -
        daysToEpoch := by
  have century : (400 * era + year) / 400 = era ∧ (400 * era + year) % 400 = year := by omega
  by_cases sameYear : monthFromMarch < 10
  · have late : ¬ monthFromMarch + 3 ≤ 2 := by omega
    have month : ((monthFromMarch + 3).toNat : Int) - 3 = monthFromMarch := by omega
    have lateNat : ¬ (monthFromMarch + 3).toNat ≤ 2 := by omega
    simp only [toDays, if_pos sameYear, if_neg late, if_neg lateNat, month,
      Int.toNat_of_nonneg nonnegative, Int.add_zero, Int.sub_zero, century.1, century.2]
  · have early : monthFromMarch - 9 ≤ 2 := by omega
    have month : ((monthFromMarch - 9).toNat : Int) + 9 = monthFromMarch := by omega
    have earlyNat : (monthFromMarch - 9).toNat ≤ 2 := by omega
    simp only [toDays, if_neg sameYear, if_pos early, if_pos earlyNat, month,
      Int.toNat_of_nonneg nonnegative, Int.add_sub_cancel, century.1, century.2]

/-- The number of days is counted back from the date. -/
theorem Date.toDays_ofDays (days : Int) : (Date.ofDays days).toDays = days := by
  have division := Int.mul_ediv_add_emod (days + daysToEpoch) daysPerEra
  obtain ⟨place, isPlace⟩ := EraPlace.exists_dayOfEra_eq
    (Int.emod_nonneg (days + daysToEpoch) (by decide)) (Int.emod_lt_of_pos _ (by decide))
  have start := place.startOfYear_yearOfEra
  have yearBounds := place.yearOfEra_bounds
  have dayBounds := place.day_bounds
  have dayOfYear : place.dayOfEra - startOfYear place.yearOfEra = place.day := by omega
  simp only [Date.ofDays, ← isPlace, place.yearOfEra_dayOfEra, dayOfYear]
  rw [Date.toDays_fromMarch _ yearBounds (by omega) (by omega)]
  omega

theorem Date.ofDays_injective {first second : Int} (same : Date.ofDays first = Date.ofDays second) :
    first = second := by
  rw [← Date.toDays_ofDays first, same, Date.toDays_ofDays]

end LearnExport.Time
