import LearnExport.Proofs.Schema.Consistency

/-!
# What an insertion puts into the tables

A row that is inserted comes from a draft whose texts can all be stored, so no
name in the tables has a character that the database cannot hold. A draft that
gives every column of a row puts just this row into its table, unless a rule
refuses it.
-/

namespace LearnExport.Schema

/-- Whether the database can hold a text. -/
def IsStorable (text : String) : Prop :=
  '\x00' ∉ text.toList

instance (text : String) : Decidable (IsStorable text) :=
  inferInstanceAs (Decidable ('\x00' ∉ text.toList))

namespace Tables

variable {tables : Tables} {table other : Table}

theorem draftRefusal?_of_unstorable {draft : table.Draft} {text : String}
    (given : text ∈ table.texts draft) (unstorable : ¬ IsStorable text) :
    draftRefusal? table draft = some .unstorableText := by
  have holdsText : ((table.texts draft).any fun text => text.toList.contains '\x00') = true :=
    List.any_eq_true.mpr ⟨text, given, List.contains_iff_mem.mpr (not_not.mp unstorable)⟩
  exact if_pos holdsText

theorem draftRefusal?_eq_none {draft : table.Draft}
    (storable : ∀ text ∈ table.texts draft, IsStorable text)
    (short : table.hasLongText draft = false) : draftRefusal? table draft = none := by
  have holdsText : ((table.texts draft).any fun text => text.toList.contains '\x00') = false := by
    rw [List.any_eq_false]
    intro text given
    rw [List.contains_iff_mem]
    exact storable text given
  rw [draftRefusal?, holdsText, short]
  rfl

/-- The name of a row is one of the texts of its draft. -/
theorem mem_texts_of_uniqueName? {number : Int64} {now : Time.Instant} {draft : table.Draft}
    {row : table.Row} (completed : table.complete? number now draft = some row) {name : String}
    (named : table.uniqueName? row = some name) : name ∈ table.texts draft := by
  cases table with
  | blocks =>
      simp only [Table.complete?, Option.bind_eq_bind, Option.pure_def, Option.bind_eq_some_iff,
        Option.some.injEq] at completed
      obtain ⟨id, _, given, isGiven, order, _, rfl⟩ := completed
      cases named
      simp [Table.texts, isGiven]
  | toolboxes | instructions =>
      simp only [Table.complete?, Option.bind_eq_bind, Option.pure_def, Option.bind_eq_some_iff,
        Option.some.injEq] at completed
      obtain ⟨id, _, given, isGiven, rfl⟩ := completed
      cases named
      simp [Table.texts, isGiven]
  | levels =>
      simp only [Table.complete?, Option.bind_eq_bind, Option.pure_def, Option.bind_eq_some_iff,
        Option.some.injEq] at completed
      obtain ⟨id, _, level, _, given, isGiven, credits, _, toolboxId, _, rfl⟩ := completed
      cases named
      simp [Table.texts, isGiven]
  | tasks =>
      simp only [Table.complete?, Option.bind_eq_bind, Option.pure_def, Option.bind_eq_some_iff,
        Option.some.injEq] at completed
      obtain ⟨id, _, given, isGiven, levelId, _, setting, _, solution, _, rfl⟩ := completed
      cases named
      simp [Table.texts, isGiven]
  | toolboxBlocks | students | seenInstructions | taskSessions | programSnapshots | actions
  | tokens | tokenPermissions => exact absurd named (by simp [Table.uniqueName?])

/-- The rows after an insertion are those before it and one that the draft was
completed to. -/
theorem mem_rows_insert {now : Time.Instant} {draft : table.Draft} {row : other.Row}
    (member : row ∈ (tables.insert table now draft).1.rows other) :
    row ∈ tables.rows other ∨
      draftRefusal? table draft = none ∧
        ∃ (same : table = other) (number : Int64) (added : table.Row),
          table.complete? number now draft = some added ∧ same ▸ added = row := by
  obtain ⟨numbered, sameRows, ⟨refusal, outcome⟩ | ⟨added, readable, completed, _, outcome⟩⟩ :=
    insert_cases tables table now draft
  · rw [outcome] at member
    exact .inl (sameRows ▸ member)
  · rw [outcome] at member
    rcases mem_rows_append member with isOld | ⟨same, isNew⟩
    · exact .inl (sameRows ▸ isOld)
    · exact .inr ⟨readable, same, _, added, completed, isNew⟩

/-- All names in the tables can be stored. -/
theorem Reachable.isStorable (reachable : tables.Reachable) {row : table.Row}
    (member : row ∈ tables.rows table) {name : String} (named : table.uniqueName? row = some name) :
    IsStorable name := by
  induction reachable generalizing table with
  | empty => exact absurd member List.not_mem_nil
  | insert _ inserted now draft ih =>
      rcases mem_rows_insert member with isOld | ⟨readable, rfl, number, added, completed, rfl⟩
      · exact ih isOld named
      · by_contra unstorable
        have refused :=
          draftRefusal?_of_unstorable (mem_texts_of_uniqueName? completed named) unstorable
        rw [readable] at refused
        exact absurd refused (by simp)
  | delete _ deleted key outcome ih =>
      rcases delete_eq_ok_iff.mp outcome with ⟨_, rfl, _⟩ | ⟨_, _, rfl, _⟩
      · exact ih member named
      · exact ih (List.mem_filter.mp member).1 named

/-- Nothing refuses a row whose key and name are new and whose references lead
somewhere. -/
theorem refusal?_eq_none_of_fresh {row : table.Row} (checked : brokenCheck? table row = none)
    (freshKey : ∀ other ∈ tables.rows table, table.key other ≠ table.key row)
    (freshName : ∀ name, table.uniqueName? row = some name →
      ∀ other ∈ tables.rows table, table.uniqueName? other ≠ some name)
    (referencesHold : ∀ reference, tables.isBroken row reference = false) :
    tables.refusal? table row = none := by
  have noKey : tables.hasKey table (table.key row) = false := by
    rw [Bool.eq_false_iff]
    intro taken
    obtain ⟨other, member, isKey⟩ := hasKey_iff.mp taken
    exact freshKey other member isKey
  have noName : tables.hasNameOf table row = false := by
    rw [Bool.eq_false_iff, hasNameOf]
    intro taken
    cases named : table.uniqueName? row with
    | none => simp [named] at taken
    | some name =>
        rw [named] at taken
        obtain ⟨other, member, sameName⟩ := List.any_eq_true.mp taken
        exact freshName name named other member (beq_iff_eq.mp sameName)
  exact refusal?_eq_none_iff.mpr ⟨checked, noKey, noName, referencesHold⟩

/-- A draft that gives every column of a row puts this row into its table, if its
texts can be stored and nothing refuses the row. -/
theorem Reachable.insert_eq_append (reachable : tables.Reachable) (table : Table)
    (now : Time.Instant) (draft : table.Draft) {row : table.Row}
    (storable : ∀ text ∈ table.texts draft, IsStorable text)
    (short : table.hasLongText draft = false) (isNumbered : table.needsNumber draft = false)
    (completed : ∀ number, table.complete? number now draft = some row)
    (allowed : tables.refusal? table row = none) :
    tables.insert table now draft = (tables.append table row, none) ∧
      (tables.append table row).Reachable := by
  have readable := draftRefusal?_eq_none storable short
  have accepted : tables.accept table (.ofNat (tables.lastNumber table)) now draft =
      .ok (tables.append table row) :=
    accept_eq_ok_iff.mpr ⟨row, completed _, allowed, rfl⟩
  have inserted : tables.insert table now draft = (tables.append table row, none) := by
    simp [Tables.insert, readable, isNumbered, accepted]
  have next := Reachable.insert reachable table now draft
  rw [inserted] at next
  exact ⟨inserted, next⟩

theorem insert_of_unstorable {now : Time.Instant} {draft : table.Draft} {text : String}
    (given : text ∈ table.texts draft) (unstorable : ¬ IsStorable text) :
    tables.insert table now draft = (tables, some .unstorableText) := by
  rw [insert, draftRefusal?_of_unstorable given unstorable]

end Tables

end LearnExport.Schema
