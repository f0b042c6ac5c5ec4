import LearnExport.Proofs.Text.Numerals
import LearnExport.Proofs.Time.CalendarDays
import LearnExport.Time.Instant

/-!
# Instants are told apart by their texts

The parts of an instant's text are numerals with something between them that is
no digit, so the text determines every part: the date and with it the day, the
time of day with its leap second, and the fraction, whose number of digits says
which unit it counts. A minute of a text has one second more than a minute of the
clock, so only the leap second at the end of a minute has a place of its own; any
other has the text of the second after it.
-/

namespace LearnExport.Time.Instant

open Text

theorem paddedDecimal_append_ne_cons (width number : Nat) {sign : Char} {rest others : List Char}
    (isSign : sign.isDigit = false) : paddedDecimal width number ++ rest ≠ sign :: others := by
  intro same
  cases digits : paddedDecimal width number with
  | nil => simp [paddedDecimal, decimal_ne_nil] at digits
  | cons digit digits' =>
      have isDigit : digit.isDigit = true :=
        isDigit_of_mem_paddedDecimal (digits ▸ List.mem_cons_self)
      rw [digits, List.cons_append, List.cons.injEq] at same
      rw [same.1, isSign] at isDigit
      exact Bool.false_ne_true isDigit

/-- A year is told apart by its digits, and by the sign that only years of more than four digits
and years before the year zero have. -/
theorem yearText_append_inj {first second : Int} {rest others : List Char}
    (ends : EndsNumeral rest) (otherEnds : EndsNumeral others)
    (same : yearText first ++ rest = yearText second ++ others) :
    first = second ∧ rest = others := by
  have isSign (year : Int) : (if year < 0 then '-' else '+').isDigit = false := by
    split <;> decide
  have isMinus (year : Int) : (if year < 0 then '-' else '+') = '-' ↔ year < 0 := by simp
  by_cases short : 0 ≤ first ∧ first ≤ 9999 <;> by_cases otherShort : 0 ≤ second ∧ second ≤ 9999
  · simp only [yearText, if_pos short, if_pos otherShort] at same
    obtain ⟨sameYear, sameRest⟩ := paddedDecimal_append_inj ends otherEnds same
    exact ⟨by omega, sameRest⟩
  · simp only [yearText, if_pos short, if_neg otherShort] at same
    exact absurd same (paddedDecimal_append_ne_cons 4 _ (isSign second))
  · simp only [yearText, if_neg short, if_pos otherShort] at same
    exact absurd same.symm (paddedDecimal_append_ne_cons 4 _ (isSign first))
  · simp only [yearText, if_neg short, if_neg otherShort] at same
    obtain ⟨sameSign, sameDigits⟩ := List.cons.inj same
    obtain ⟨sameYear, sameRest⟩ := paddedDecimal_append_inj ends otherEnds sameDigits
    have sameSide : first < 0 ↔ second < 0 := by rw [← isMinus, sameSign, isMinus]
    exact ⟨by omega, sameRest⟩

section Parts

variable {first second : Date} {rest others : List Char}

theorem dateText_append_inj (ends : EndsNumeral rest) (otherEnds : EndsNumeral others)
    (same : dateText first ++ rest = dateText second ++ others) :
    first = second ∧ rest = others := by
  have dash (text : List Char) : EndsNumeral ('-' :: text) := by simp [EndsNumeral]
  simp only [dateText, List.append_assoc, List.cons_append] at same
  obtain ⟨sameYear, same⟩ := yearText_append_inj (dash _) (dash _) same
  obtain ⟨sameMonth, same⟩ := paddedDecimal_append_inj (dash _) (dash _) (List.cons.inj same).2
  obtain ⟨sameDay, sameRest⟩ := paddedDecimal_append_inj ends otherEnds (List.cons.inj same).2
  cases first
  cases second
  simp_all

/-- The nanoseconds that a fraction of a second denotes. -/
def fractionNanos (text : List Char) : Nat :=
  Nat.ofDigitChars 10 text.tail 0 * 10 ^ (10 - text.length)

theorem fractionNanos_point {width number : Nat} (positive : 0 < width)
    (fits : number < 10 ^ width) :
    fractionNanos ('.' :: paddedDecimal width number) = number * 10 ^ (9 - width) := by
  have places : 10 - (width + 1) = 9 - width := by omega
  rw [fractionNanos, List.tail_cons, List.length_cons, length_paddedDecimal positive fits,
    ofDigitChars_paddedDecimal, places]

theorem fractionNanos_fractionText {nanos : Nat} (isFraction : nanos < nanosPerSecond) :
    fractionNanos (fractionText nanos) = nanos := by
  have bound : nanos < 1000000000 := isFraction
  unfold fractionText
  split
  · rename_i isWhole
    rw [isWhole]
    rfl
  · split
    · rw [fractionNanos_point (by decide) (by omega)]
      omega
    · split
      · rw [fractionNanos_point (by decide) (by omega)]
        omega
      · rw [fractionNanos_point (by decide) (by omega)]
        omega

theorem endsNumeral_fractionText_append (nanos : Nat) (ends : EndsNumeral rest) :
    EndsNumeral (fractionText nanos ++ rest) := by
  unfold fractionText
  split
  · exact ends
  · split
    · simp [EndsNumeral]
    · split <;> simp [EndsNumeral]

theorem timeText_append_inj {firstSecond secondSecond firstNanos secondNanos : Nat}
    (same : timeText firstSecond firstNanos ++ ['Z'] = timeText secondSecond secondNanos ++ ['Z']) :
    firstSecond / 3600 = secondSecond / 3600 ∧
      firstSecond / 60 % 60 = secondSecond / 60 % 60 ∧
      firstSecond % 60 + firstNanos / nanosPerSecond =
        secondSecond % 60 + secondNanos / nanosPerSecond ∧
      firstNanos % nanosPerSecond = secondNanos % nanosPerSecond := by
  have colon (text : List Char) : EndsNumeral (':' :: text) := by simp [EndsNumeral]
  have zone : EndsNumeral ['Z'] := by simp [EndsNumeral]
  simp only [timeText, List.append_assoc, List.cons_append] at same
  obtain ⟨sameHour, same⟩ := paddedDecimal_append_inj (colon _) (colon _) same
  obtain ⟨sameMinute, same⟩ := paddedDecimal_append_inj (colon _) (colon _) (List.cons.inj same).2
  obtain ⟨sameSecond, same⟩ := paddedDecimal_append_inj (endsNumeral_fractionText_append _ zone)
    (endsNumeral_fractionText_append _ zone) (List.cons.inj same).2
  have sameFraction := congrArg fractionNanos (List.append_cancel_right same)
  rw [fractionNanos_fractionText (Nat.mod_lt _ (by decide)),
    fractionNanos_fractionText (Nat.mod_lt _ (by decide))] at sameFraction
  exact ⟨sameHour, sameMinute, sameSecond, sameFraction⟩

end Parts

/-- A leap second is counted only after the last second of a minute. -/
def LeapEndsMinute (instant : Instant) : Prop :=
  nanosPerSecond ≤ instant.nanos → instant.seconds % 60 = 59

instance : DecidablePred LeapEndsMinute :=
  fun instant => inferInstanceAs (Decidable (nanosPerSecond ≤ instant.nanos → _))

/-- The instant that is read in a text, where a second within a minute is followed by no leap
second but by the next one. -/
def shown (instant : Instant) : Instant :=
  if instant.LeapEndsMinute then instant
  else
    { seconds := instant.seconds + 1
      nanos := instant.nanos - nanosPerSecond
      nanos_lt := Nat.lt_of_le_of_lt (Nat.sub_le _ _) instant.nanos_lt }

theorem shown_eq_self_iff {instant : Instant} :
    instant.shown = instant ↔ instant.LeapEndsMinute := by
  rw [shown]
  split
  · rename_i leap
    exact iff_of_true rfl leap
  · rename_i within
    refine iff_of_false (fun same => ?_) within
    have nextSecond : instant.seconds + 1 = instant.seconds := congrArg seconds same
    omega

theorem leapEndsMinute_shown (instant : Instant) : instant.shown.LeapEndsMinute := by
  rw [shown]
  split
  · assumption
  · intro leap
    have bound : instant.nanos < 2 * nanosPerSecond := instant.nanos_lt
    have next : nanosPerSecond ≤ instant.nanos - nanosPerSecond := leap
    omega

theorem timeText_succ {second nanos : Nat} (within : second % 60 ≠ 59)
    (leap : nanosPerSecond ≤ nanos) :
    timeText (second + 1) (nanos - nanosPerSecond) = timeText second nanos := by
  have carried : nanos / nanosPerSecond = (nanos - nanosPerSecond) / nanosPerSecond + 1 :=
    Nat.div_eq_sub_div (by decide) leap
  have sameHour : (second + 1) / 3600 = second / 3600 := by omega
  have sameMinute : (second + 1) / 60 % 60 = second / 60 % 60 := by omega
  have nextSecond : (second + 1) % 60 = second % 60 + 1 := by omega
  rw [timeText, timeText, sameHour, sameMinute, nextSecond, carried, Nat.mod_eq_sub_mod leap,
    Nat.add_assoc, Nat.add_comm 1]

/-- A leap second within a minute is carried over where the text is formed. -/
theorem characters_shown (instant : Instant) : instant.shown.characters = instant.characters := by
  rw [shown]
  split
  · rfl
  · rename_i within
    obtain ⟨leap, notLast⟩ := Classical.not_imp.mp within
    have notLastOfDay : (instant.seconds % 86400).toNat % 60 ≠ 59 := by omega
    have sameDay : (instant.seconds + 1) / 86400 = instant.seconds / 86400 := by omega
    have nextOfDay : ((instant.seconds + 1) % 86400).toNat =
        (instant.seconds % 86400).toNat + 1 := by omega
    simp only [characters, secondsPerDay, sameDay, nextOfDay, timeText_succ notLastOfDay leap]

/-- The second sixty of a minute is its leap second. -/
theorem ext_of_timeOfDay {first second : Instant}
    (leap : first.LeapEndsMinute) (otherLeap : second.LeapEndsMinute)
    (sameDay : first.seconds / secondsPerDay = second.seconds / secondsPerDay)
    (sameHour : (first.seconds % secondsPerDay).toNat / 3600 =
      (second.seconds % secondsPerDay).toNat / 3600)
    (sameMinute : (first.seconds % secondsPerDay).toNat / 60 % 60 =
      (second.seconds % secondsPerDay).toNat / 60 % 60)
    (sameSecond : (first.seconds % secondsPerDay).toNat % 60 + first.nanos / nanosPerSecond =
      (second.seconds % secondsPerDay).toNat % 60 + second.nanos / nanosPerSecond)
    (sameFraction : first.nanos % nanosPerSecond = second.nanos % nanosPerSecond) :
    first = second := by
  obtain ⟨seconds, nanos, bound⟩ := first
  obtain ⟨otherSeconds, otherNanos, otherBound⟩ := second
  have inRange : nanos < 2000000000 ∧ otherNanos < 2000000000 := ⟨bound, otherBound⟩
  have lastSecond : 1000000000 ≤ nanos → seconds % 60 = 59 := leap
  have otherLastSecond : 1000000000 ≤ otherNanos → otherSeconds % 60 = 59 := otherLeap
  simp only [nanosPerSecond, secondsPerDay] at sameDay sameHour sameMinute sameSecond sameFraction
  have sameNanos : nanos = otherNanos := by omega
  have sameSeconds : seconds = otherSeconds := by omega
  subst sameNanos sameSeconds
  rfl

theorem eq_of_characters_eq {first second : Instant}
    (leap : first.LeapEndsMinute) (otherLeap : second.LeapEndsMinute)
    (same : first.characters = second.characters) : first = second := by
  have mark (text : List Char) : EndsNumeral ('T' :: text) := by simp [EndsNumeral]
  simp only [characters, List.append_assoc, List.cons_append] at same
  obtain ⟨sameDate, same⟩ := dateText_append_inj (mark _) (mark _) same
  obtain ⟨sameHour, sameMinute, sameSecond, sameFraction⟩ :=
    timeText_append_inj (List.cons.inj same).2
  exact ext_of_timeOfDay leap otherLeap (Date.ofDays_injective sameDate) sameHour sameMinute
    sameSecond sameFraction

theorem characters_inj {first second : Instant} :
    first.characters = second.characters ↔ first.shown = second.shown := by
  constructor
  · intro same
    apply eq_of_characters_eq (leapEndsMinute_shown first) (leapEndsMinute_shown second)
    rw [characters_shown, characters_shown, same]
  · intro same
    rw [← characters_shown first, same, characters_shown]

theorem text_shown (instant : Instant) : instant.shown.text = instant.text :=
  congrArg String.ofList instant.characters_shown

theorem text_inj {first second : Instant} :
    first.text = second.text ↔ first.shown = second.shown := by
  rw [text, text, String.ofList_inj, characters_inj]

end LearnExport.Time.Instant
