import LearnExport.Render.Delimited

/-!
# Reading delimited text

A reader goes through a text once and keeps the records that have ended, the
fields of the record that has not, and the characters of the field it is in. A
field that starts with a quote goes on to the next quote that is not doubled;
outside quotes a delimiter ends a field and a line break ends a record. What was
written is read back, whatever characters the fields hold, as long as a record
has two fields at least: an empty line is no record.
-/

namespace LearnExport.Delimited

/-- Where a reader stands in a field. -/
inductive Phase where
  /-- Before the first character. -/
  | start
  /-- Outside quotes. -/
  | plain
  /-- Between quotes. -/
  | quoted
  /-- After a quote that ends the field unless another one follows. -/
  | closing
deriving DecidableEq, Repr

/-- What a reader has read. -/
structure Reading where
  phase : Phase
  /-- The characters of the field that has not ended. -/
  characters : List Char
  /-- The earlier fields of the record that has not ended. -/
  fields : List (List Char)
  records : List (List (List Char))
deriving DecidableEq, Repr

namespace Reading

/-- What has been read where a field begins. -/
def atField (fields : List (List Char)) (records : List (List (List Char))) : Reading where
  phase := .start
  characters := []
  fields := fields
  records := records

def add (reading : Reading) (phase : Phase) (character : Char) : Reading :=
  { reading with phase := phase, characters := reading.characters ++ [character] }

def endField (reading : Reading) : Reading :=
  atField (reading.fields ++ [reading.characters]) reading.records

def endRecord (reading : Reading) : Reading :=
  if reading.phase = .start ∧ reading.fields = [] then reading
  else atField [] (reading.records ++ [reading.fields ++ [reading.characters]])

def outside (delimiter : Char) (reading : Reading) (character : Char) : Reading :=
  if character = delimiter then reading.endField
  else if character = '\n' ∨ character = '\r' then reading.endRecord
  else reading.add .plain character

def step (delimiter : Char) (reading : Reading) (character : Char) : Reading :=
  match reading.phase with
  | .start =>
      if character = '"' then { reading with phase := .quoted }
      else reading.outside delimiter character
  | .plain => reading.outside delimiter character
  | .quoted =>
      if character = '"' then { reading with phase := .closing }
      else reading.add .quoted character
  | .closing =>
      if character = '"' then reading.add .quoted character
      else reading.outside delimiter character

def run (delimiter : Char) (reading : Reading) (text : List Char) : Reading :=
  text.foldl (step delimiter) reading

end Reading

/-- The records of a text. -/
def read (delimiter : Char) (text : List Char) : List (List (List Char)) :=
  ((Reading.atField [] []).run delimiter text).endRecord.records

/-- A character that can stand between fields. -/
structure IsDelimiter (delimiter : Char) : Prop where
  ne_quote : delimiter ≠ '"'
  ne_lineFeed : delimiter ≠ '\n'
  ne_return : delimiter ≠ '\r'

namespace Reading

variable {delimiter : Char} {reading : Reading} {fields : List (List Char)}
  {records : List (List (List Char))}

theorem run_append (first second : List Char) :
    reading.run delimiter (first ++ second) =
      (reading.run delimiter first).run delimiter second :=
  List.foldl_append

theorem run_cons (character : Char) (others : List Char) :
    reading.run delimiter (character :: others) =
      (reading.step delimiter character).run delimiter others := rfl

/-- Text without special characters goes on with a field that has no quotes. -/
theorem run_of_unquoted (reading : Reading) {text : List Char}
    (unquoted : needsQuotes delimiter text = false)
    (isOutside : reading.phase = .start ∨ reading.phase = .plain) :
    ∃ phase, phase ≠ .quoted ∧ reading.run delimiter text =
      { reading with phase := phase, characters := reading.characters ++ text } := by
  induction text generalizing reading with
  | nil =>
      refine ⟨reading.phase, ?_, by simp [run]⟩
      rcases isOutside with isStart | isPlain
      · rw [isStart]
        decide
      · rw [isPlain]
        decide
  | cons character others ih =>
      simp only [needsQuotes, List.any_cons, Bool.or_eq_false_iff, beq_eq_false_iff_ne] at unquoted
      obtain ⟨⟨⟨⟨notDelimiter, notQuote⟩, notReturn⟩, notLineFeed⟩, othersUnquoted⟩ := unquoted
      have added : reading.step delimiter character = reading.add .plain character := by
        rcases isOutside with isStart | isPlain
        · simp [step, isStart, outside, notQuote, notDelimiter, notReturn, notLineFeed]
        · simp [step, isPlain, outside, notDelimiter, notReturn, notLineFeed]
      -- The field has begun, so a later quote would not open it either.
      obtain ⟨phase, notQuoted, rest⟩ :=
        ih (reading.add .plain character) othersUnquoted (.inr rfl)
      refine ⟨phase, notQuoted, ?_⟩
      rw [run_cons, added, rest]
      simp [add]

/-- Doubled quotes are read as quotes of the field. -/
theorem run_doubled (text : List Char) (isQuoted : reading.phase = .quoted) :
    reading.run delimiter (text.flatMap doubled) =
      { reading with characters := reading.characters ++ text } := by
  induction text generalizing reading with
  | nil => simp [run]
  | cons character others ih =>
      have added : reading.run delimiter (doubled character) =
          reading.add .quoted character := by
        by_cases isQuote : character = '"'
        · simp [run, doubled, isQuote, step, isQuoted, add]
        · simp [run, doubled, isQuote, step, isQuoted]
      rw [List.flatMap_cons, run_append, added, ih rfl]
      simp [add, isQuoted]

/-- The text of a field is read as its characters, and leaves no quote open. -/
theorem run_field (delimiter : Char) (fields : List (List Char))
    (records : List (List (List Char))) (text : List Char) :
    ∃ phase, phase ≠ .quoted ∧
      (atField fields records).run delimiter (field delimiter text) =
        ⟨phase, text, fields, records⟩ := by
  unfold field
  split
  · have opened : (atField fields records).step delimiter '"' = ⟨.quoted, [], fields, records⟩ := by
      simp [step, atField]
    refine ⟨.closing, by decide, ?_⟩
    rw [List.cons_append, run_cons, opened, run_append, run_doubled text rfl]
    simp [run, step]
  · rename_i unquoted
    obtain ⟨phase, notQuoted, rest⟩ := run_of_unquoted (atField fields records)
      (Bool.eq_false_iff.mpr unquoted) (.inl rfl)
    exact ⟨phase, notQuoted, rest⟩

/-- After a field, a character that is not protected ends it. -/
theorem step_of_not_quoted {phase : Phase} {text : List Char} (notQuoted : phase ≠ .quoted)
    {character : Char} (notQuote : character ≠ '"') :
    step delimiter ⟨phase, text, fields, records⟩ character =
      outside delimiter ⟨phase, text, fields, records⟩ character := by
  cases phase with
  | start => simp [step, notQuote]
  | plain => rfl
  | quoted => exact absurd rfl notQuoted
  | closing => simp [step, notQuote]

theorem run_field_delimiter (isDelimiter : IsDelimiter delimiter) (text rest : List Char) :
    (atField fields records).run delimiter (field delimiter text ++ delimiter :: rest) =
      (atField (fields ++ [text]) records).run delimiter rest := by
  obtain ⟨phase, notQuoted, written⟩ := run_field delimiter fields records text
  rw [run_append, written, run_cons, step_of_not_quoted notQuoted isDelimiter.ne_quote]
  simp [outside, endField]

theorem run_field_lineFeed (isDelimiter : IsDelimiter delimiter) (hasField : fields ≠ [])
    (text rest : List Char) :
    (atField fields records).run delimiter (field delimiter text ++ '\n' :: rest) =
      (atField [] (records ++ [fields ++ [text]])).run delimiter rest := by
  obtain ⟨phase, notQuoted, written⟩ := run_field delimiter fields records text
  rw [run_append, written, run_cons, step_of_not_quoted notQuoted (by decide)]
  simp [outside, endRecord, Ne.symm isDelimiter.ne_lineFeed, hasField]

/-- The rest of a record is read as the rest of its fields. -/
theorem run_record (isDelimiter : IsDelimiter delimiter) (first : List Char)
    (others : List (List Char)) (severalFields : fields ≠ [] ∨ others ≠ []) (rest : List Char) :
    (atField fields records).run delimiter (record delimiter (first :: others) ++ rest) =
      (atField [] (records ++ [fields ++ first :: others])).run delimiter rest := by
  -- Each field that has been read joins the earlier ones, so these are general.
  induction others generalizing fields first with
  | nil =>
      rcases severalFields with hasField | noField
      · simpa [record, Text.joinWith] using run_field_lineFeed isDelimiter hasField first rest
      · exact absurd rfl noField
  | cons second others ih =>
      have written : record delimiter (first :: second :: others) ++ rest =
          field delimiter first ++ delimiter :: (record delimiter (second :: others) ++ rest) := by
        simp [record, Text.joinWith]
      rw [written, run_field_delimiter isDelimiter, ih _ (.inl (by simp))]
      simp

theorem run_records (isDelimiter : IsDelimiter delimiter) (written : List (List (List Char)))
    (severalFields : ∀ fields ∈ written, 2 ≤ fields.length) :
    (atField [] records).run delimiter (written.flatMap (record delimiter)) =
      atField [] (records ++ written) := by
  induction written generalizing records with
  | nil => simp [run]
  | cons fields others ih =>
      obtain ⟨first, second, more, rfl⟩ :
          ∃ first second more, fields = first :: second :: more := by
        match fields, severalFields fields List.mem_cons_self with
        | first :: second :: more, _ => exact ⟨first, second, more, rfl⟩
      rw [List.flatMap_cons, run_record isDelimiter first (second :: more) (.inr (by simp)),
        ih fun fields member => severalFields fields (List.mem_cons_of_mem _ member)]
      simp

end Reading

/-- What is written as records of two fields or more is read as these records. -/
theorem read_flatMap_record {delimiter : Char} (isDelimiter : IsDelimiter delimiter)
    {records : List (List (List Char))} (severalFields : ∀ fields ∈ records, 2 ≤ fields.length) :
    read delimiter (records.flatMap (record delimiter)) = records := by
  rw [read, Reading.run_records isDelimiter records severalFields]
  simp [Reading.endRecord, Reading.atField]

end LearnExport.Delimited
