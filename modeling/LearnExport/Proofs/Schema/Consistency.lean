import LearnExport.Schema.Tables
import Mathlib.Data.List.Nodup

/-!
# Consistent tables

The rules of the schema as one invariant: keys and names are unique, every
reference leads to a row, and every row passes the rules about its values.
Empty tables keep the rules, an accepted row keeps them because it is checked,
and a deletion keeps them because the rows that refer to the deleted one either
go with it or forbid it, and no row refers to those that go with it.
-/

namespace LearnExport.Schema

variable {table other : Table}

/-- A row refers to a row of another table by a reference between the two, with
the key of that row. -/
theorem Reference.refers_iff {reference : Reference} {row : other.Row} {key : table.Key} :
    reference.refers row key = true ↔
      ∃ (isSource : other = reference.source) (isTarget : table = reference.target),
        reference.key? (isSource ▸ row) = some (isTarget ▸ key) := by
  unfold Reference.refers
  split
  · rename_i isSource
    split
    · rename_i isTarget
      rw [beq_iff_eq]
      exact ⟨fun same => ⟨isSource, isTarget, same⟩, fun ⟨_, _, same⟩ => same⟩
    · rename_i notTarget
      simp only [Bool.false_eq_true, false_iff]
      rintro ⟨_, isTarget, _⟩
      exact notTarget isTarget
  · rename_i notSource
    simp only [Bool.false_eq_true, false_iff]
    rintro ⟨isSource, _, _⟩
    exact notSource isSource

namespace Tables

variable {tables remaining : Tables}

theorem hasKey_iff {key : table.Key} :
    tables.hasKey table key = true ↔ ∃ row ∈ tables.rows table, table.key row = key := by
  simp [hasKey]

/-- The rules that the tables keep at all times. -/
structure Consistent (tables : Tables) : Prop where
  keys_nodup (table : Table) : ((tables.rows table).map table.key).Nodup
  names_nodup (table : Table) : ((tables.rows table).filterMap table.uniqueName?).Nodup
  references_exist (reference : Reference) {row : reference.source.Row}
    (member : row ∈ tables.rows reference.source) {key : reference.target.Key}
    (refers : reference.key? row = some key) : tables.hasKey reference.target key = true
  checks_hold (table : Table) {row : table.Row} (member : row ∈ tables.rows table) :
    brokenCheck? table row = none

theorem consistent_empty : empty.Consistent where
  keys_nodup _ := List.nodup_nil
  names_nodup _ := List.nodup_nil
  references_exist _ _ member := absurd member List.not_mem_nil
  checks_hold _ _ member := absurd member List.not_mem_nil

/-- The rules are about rows alone, not about the numbers that were given out. -/
theorem Consistent.of_rows_eq (consistent : tables.Consistent)
    (same : remaining.rows = tables.rows) : remaining.Consistent := by
  cases remaining
  cases same
  exact ⟨consistent.keys_nodup, consistent.names_nodup, consistent.references_exist,
    consistent.checks_hold⟩

/-- Everything that is checked before a row is accepted. -/
theorem refusal?_eq_none_iff {row : table.Row} :
    tables.refusal? table row = none ↔
      brokenCheck? table row = none ∧ tables.hasKey table (table.key row) = false ∧
        tables.hasNameOf table row = false ∧
        ∀ reference, tables.isBroken row reference = false := by
  unfold refusal?
  cases broken : brokenCheck? table row with
  | some check => simp
  | none =>
      cases taken : tables.hasKey table (table.key row) with
      | true => simp
      | false =>
          cases named : tables.hasNameOf table row with
          | true => simp
          | false =>
              simp only [Bool.false_eq_true, ↓reduceIte, Option.map_eq_none_iff,
                List.find?_eq_none, Bool.not_eq_true, true_and]
              exact ⟨fun allHold reference => allHold reference (Reference.mem_all reference),
                fun allHold reference _ => allHold reference⟩

theorem hasKey_append {row : table.Row} {key : other.Key}
    (exists_ : tables.hasKey other key = true) :
    (tables.append table row).hasKey other key = true := by
  obtain ⟨found, member, isKey⟩ := hasKey_iff.mp exists_
  refine hasKey_iff.mpr ⟨found, ?_, isKey⟩
  by_cases same : table = other
  · subst same
    rw [rows_append_self]
    exact List.mem_append_left _ member
  · rw [rows_append_of_ne tables row same]
    exact member

private theorem nodup_append_singleton {α : Type} {elements : List α} {element : α}
    (nodup : elements.Nodup) (fresh : element ∉ elements) : (elements ++ [element]).Nodup := by
  rw [← List.concat_eq_append]
  exact nodup.concat fresh

private theorem nodup_keys_append {row : table.Row}
    (nodup : ∀ other, ((tables.rows other).map other.key).Nodup)
    (freshKey : tables.hasKey table (table.key row) = false) (other : Table) :
    (((tables.append table row).rows other).map other.key).Nodup := by
  by_cases same : table = other
  · subst same
    rw [rows_append_self, List.map_append]
    refine nodup_append_singleton (nodup table) ?_
    intro taken
    obtain ⟨found, member, isKey⟩ := List.mem_map.mp taken
    rw [hasKey_iff.mpr ⟨found, member, isKey⟩] at freshKey
    exact absurd freshKey (by decide)
  · rw [rows_append_of_ne tables row same]
    exact nodup other

private theorem nodup_names_append {row : table.Row}
    (nodup : ∀ other, ((tables.rows other).filterMap other.uniqueName?).Nodup)
    (freshName : tables.hasNameOf table row = false) (other : Table) :
    (((tables.append table row).rows other).filterMap other.uniqueName?).Nodup := by
  by_cases same : table = other
  · subst same
    rw [rows_append_self, List.filterMap_append]
    cases named : table.uniqueName? row with
    | none => simpa [named] using nodup table
    | some name =>
        rw [List.filterMap_cons_some named, List.filterMap_nil]
        refine nodup_append_singleton (nodup table) ?_
        intro taken
        obtain ⟨found, member, isName⟩ := List.mem_filterMap.mp taken
        have repeated : tables.hasNameOf table row = true := by
          simp only [hasNameOf, named, List.any_eq_true, beq_iff_eq]
          exact ⟨found, member, isName⟩
        rw [repeated] at freshName
        exact absurd freshName (by decide)
  · rw [rows_append_of_ne tables row same]
    exact nodup other

/-- The rows of a table are the old ones and, in its own table, the new one. -/
theorem mem_rows_append {row : table.Row} {found : other.Row}
    (member : found ∈ (tables.append table row).rows other) :
    found ∈ tables.rows other ∨ ∃ same : table = other, same ▸ row = found := by
  by_cases same : table = other
  · subst same
    rw [rows_append_self, List.mem_append, List.mem_singleton] at member
    exact member.imp_right fun isNew => ⟨rfl, isNew.symm⟩
  · rw [rows_append_of_ne tables row same] at member
    exact .inl member

/-- A row that is not refused keeps the tables consistent. -/
theorem Consistent.append (consistent : tables.Consistent) {row : table.Row}
    (allowed : tables.refusal? table row = none) : (tables.append table row).Consistent := by
  obtain ⟨checked, freshKey, freshName, referencesHold⟩ := refusal?_eq_none_iff.mp allowed
  refine ⟨nodup_keys_append consistent.keys_nodup freshKey,
    nodup_names_append consistent.names_nodup freshName, ?_, ?_⟩
  · intro reference found member key refers
    rcases mem_rows_append member with isOld | ⟨rfl, rfl⟩
    · exact hasKey_append (consistent.references_exist reference isOld refers)
    · have holds := referencesHold reference
      simp only [isBroken, ↓reduceDIte, refers, Bool.not_eq_false'] at holds
      exact hasKey_append holds
  · intro other found member
    rcases mem_rows_append member with isOld | ⟨rfl, rfl⟩
    · exact consistent.checks_hold other isOld
    · exact checked

/-- A row goes with the row of a key if it is that row or refers to it by a
reference that cascades. -/
theorem goesWith_iff {key : table.Key} {row : other.Row} :
    goesWith table key row = true ↔
      (∃ same : other = table, table.key (same ▸ row) = key) ∨
        ∃ reference : Reference, reference.cascades = true ∧ reference.refers row key = true := by
  unfold goesWith
  rw [Bool.or_eq_true, List.any_eq_true]
  refine or_congr ?_ ?_
  · split
    · rename_i same
      rw [beq_iff_eq]
      exact ⟨fun isKey => ⟨same, isKey⟩, fun ⟨_, isKey⟩ => isKey⟩
    · rename_i different
      simp only [Bool.false_eq_true, false_iff]
      rintro ⟨same, _⟩
      exact different same
  · simp only [Bool.and_eq_true]
    exact ⟨fun ⟨reference, _, found⟩ => ⟨reference, found⟩,
      fun ⟨reference, found⟩ => ⟨reference, Reference.mem_all reference, found⟩⟩

/-- The tables after the row of a key has been deleted, with all rows that go
with it. -/
def without (tables : Tables) (table : Table) (key : table.Key) : Tables :=
  { tables with
    rows := fun other => (tables.rows other).filter fun row => !goesWith table key row }

/-- A deletion finds no row, or removes the row and what goes with it because no
row keeps it. -/
theorem delete_eq_ok_iff {key : table.Key} {count : Nat} :
    tables.delete table key = .ok (remaining, count) ↔
      (tables.hasKey table key = false ∧ remaining = tables ∧ count = 0) ∨
        (tables.hasKey table key = true ∧
          (∀ reference, tables.isKept table key reference = false) ∧
          remaining = tables.without table key ∧ count = 1) := by
  unfold delete
  cases found : tables.hasKey table key with
  | false =>
      simp only [Bool.false_eq_true, ↓reduceIte, Except.ok.injEq, Prod.mk.injEq, true_and,
        false_and, or_false]
      exact and_congr eq_comm eq_comm
  | true =>
      cases kept : Reference.all.find? (tables.isKept table key) with
      | some reference =>
          have isKept := List.find?_some kept
          simp only [↓reduceIte, reduceCtorEq, Bool.true_eq_false, false_and, true_and, false_or,
            false_iff]
          rintro ⟨noneKept, _⟩
          rw [noneKept reference] at isKept
          exact absurd isKept (by decide)
      | none =>
          have noneKept : ∀ reference, tables.isKept table key reference = false := fun reference =>
            Bool.eq_false_iff.mpr
              (List.find?_eq_none.mp kept reference (Reference.mem_all reference))
          simp only [↓reduceIte, Except.ok.injEq, Prod.mk.injEq, Bool.true_eq_false, false_and,
            true_and, false_or]
          exact ⟨fun ⟨rows, one⟩ => ⟨noneKept, rows.symm, one.symm⟩,
            fun ⟨_, rows, one⟩ => ⟨rows.symm, one.symm⟩⟩

/-- A row that is referred to stays, unless it is the deleted one: no table of
rows that go with others is referred to. -/
private theorem stays_of_referred {key : table.Key} {reference : Reference}
    {row : reference.source.Row} {found : reference.target.Row}
    (kept : ∀ reference, tables.isKept table key reference = false)
    (member : row ∈ tables.rows reference.source) (stays : goesWith table key row = false)
    (refers : reference.key? row = some (reference.target.key found)) :
    goesWith table key found = false := by
  rw [Bool.eq_false_iff]
  intro goes
  rcases goesWith_iff.mp goes with ⟨same, isKey⟩ | ⟨cascading, cascades, refersToIt⟩
  · subst same
    have refersToDeleted : reference.refers row key = true := by
      refine Reference.refers_iff.mpr ⟨rfl, rfl, ?_⟩
      rw [refers]
      exact congrArg some isKey
    cases cascades : reference.cascades with
    | true =>
        rw [goesWith_iff.mpr (.inr ⟨reference, cascades, refersToDeleted⟩)] at stays
        exact absurd stays (by decide)
    | false =>
        have isKept : tables.isKept reference.target key reference = true := by
          simp only [isKept, cascades, Bool.not_false, Bool.true_and, List.any_eq_true]
          exact ⟨row, member, refersToDeleted⟩
        rw [kept reference] at isKept
        exact absurd isKept (by decide)
  · -- Rows that go with others are in tables to which no reference leads.
    obtain ⟨isSource, _, _⟩ := Reference.refers_iff.mp refersToIt
    exact Reference.source_ne_target_of_cascades cascades isSource.symm

/-- A deletion that no row forbids keeps the tables consistent. -/
theorem Consistent.without (consistent : tables.Consistent) {key : table.Key}
    (kept : ∀ reference, tables.isKept table key reference = false) :
    (tables.without table key).Consistent where
  keys_nodup other := (consistent.keys_nodup other).sublist (List.filter_sublist.map _)
  names_nodup other := (consistent.names_nodup other).sublist (List.filter_sublist.filterMap _)
  references_exist reference row member target refers := by
    obtain ⟨isOld, stays⟩ := List.mem_filter.mp member
    obtain ⟨found, foundMember, isKey⟩ :=
      hasKey_iff.mp (consistent.references_exist reference isOld refers)
    refine hasKey_iff.mpr ⟨found, List.mem_filter.mpr ⟨foundMember, ?_⟩, isKey⟩
    rw [stays_of_referred kept isOld (by simpa using stays) (isKey ▸ refers)]
    rfl
  checks_hold other _ member := consistent.checks_hold other (List.mem_filter.mp member).1

theorem Consistent.delete (consistent : tables.Consistent) {key : table.Key} {count : Nat}
    (deleted : tables.delete table key = .ok (remaining, count)) : remaining.Consistent := by
  rcases delete_eq_ok_iff.mp deleted with ⟨_, rfl, _⟩ | ⟨_, kept, rfl, _⟩
  · exact consistent
  · exact consistent.without kept

/-- Without the row of a key that no row has, consistent tables are as they
were. -/
theorem Consistent.rows_without_of_absent (consistent : tables.Consistent) {key : table.Key}
    (absent : tables.hasKey table key = false) :
    (tables.without table key).rows = tables.rows := by
  funext other
  refine List.filter_eq_self.mpr fun row member => ?_
  rw [Bool.not_eq_true', Bool.eq_false_iff]
  intro goes
  have present : tables.hasKey table key = true := by
    rcases goesWith_iff.mp goes with ⟨same, isKey⟩ | ⟨reference, _, refersToIt⟩
    · subst same
      exact hasKey_iff.mpr ⟨row, member, isKey⟩
    · obtain ⟨isSource, isTarget, refers⟩ := Reference.refers_iff.mp refersToIt
      subst isSource
      subst isTarget
      exact consistent.references_exist reference member refers
  rw [present] at absent
  exact absurd absent (by decide)

/-- A task session can always be deleted. -/
theorem Consistent.delete_taskSession (consistent : tables.Consistent) (id : Int64) :
    ∃ remaining count, tables.delete .taskSessions id = .ok (remaining, count) ∧
      remaining.rows = (tables.without .taskSessions id).rows := by
  cases found : tables.hasKey .taskSessions id with
  | false =>
      exact ⟨tables, 0, delete_eq_ok_iff.mpr (.inl ⟨found, rfl, rfl⟩),
        (consistent.rows_without_of_absent found).symm⟩
  | true =>
      refine ⟨_, 1, delete_eq_ok_iff.mpr (.inr ⟨found, ?_, rfl, rfl⟩), rfl⟩
      intro reference
      cases reference <;> simp [isKept, Reference.cascades, Reference.refers]

/-- With a task session go its snapshots. -/
theorem rows_without_taskSession (tables : Tables) (id : Int64) :
    (tables.without .taskSessions id).rows .taskSessions =
        ((tables.rows .taskSessions).filter fun session => session.id != id) ∧
      (tables.without .taskSessions id).rows .programSnapshots =
        ((tables.rows .programSnapshots).filter fun snapshot => snapshot.taskSessionId != id) := by
  constructor <;>
    simp [without, goesWith, Reference.all, Reference.refers, Reference.cascades, Reference.key?,
      Table.key, bne]

/-- With a task session go no rows of other tables. -/
theorem rows_without_taskSession_of_ne (tables : Tables) (id : Int64)
    (notSession : table ≠ .taskSessions) (notSnapshot : table ≠ .programSnapshots) :
    (tables.without .taskSessions id).rows table = tables.rows table := by
  refine List.filter_eq_self.mpr fun row _ => ?_
  cases table <;> first | contradiction | rfl

/-- A draft is accepted if it can be completed to a row that nothing refuses. -/
theorem accept_eq_ok_iff {number : Int64} {now : Time.Instant} {draft : table.Draft}
    {inserted : Tables} :
    tables.accept table number now draft = .ok inserted ↔
      ∃ row, table.complete? number now draft = some row ∧
        tables.refusal? table row = none ∧ inserted = tables.append table row := by
  unfold accept
  cases completed : table.complete? number now draft with
  | none => simp
  | some row =>
      cases refused : tables.refusal? table row with
      | some refusal => simp [refused]
      | none => simp [refused, eq_comm]

/-- An insertion adds the row to which its draft is completed with the next number of the table,
as nothing refuses it, or it is refused and changes no row. -/
theorem insert_cases (tables : Tables) (table : Table) (now : Time.Instant)
    (draft : table.Draft) :
    ∃ numbered : Tables, numbered.rows = tables.rows ∧
      ((∃ refusal, tables.insert table now draft = (numbered, some refusal)) ∨
        ∃ row, draftRefusal? table draft = none ∧
          table.complete? (.ofNat (tables.lastNumber table + 1)) now draft = some row ∧
          numbered.refusal? table row = none ∧
          tables.insert table now draft = (numbered.append table row, none)) := by
  cases drafted : draftRefusal? table draft with
  | some refusal => exact ⟨tables, rfl, .inl ⟨refusal, by simp [insert, drafted]⟩⟩
  | none =>
      obtain ⟨numbered, isNumbered⟩ : ∃ numbered : Tables, numbered =
          if table.needsNumber draft then tables.useNumber table else tables := ⟨_, rfl⟩
      have sameRows : numbered.rows = tables.rows := by
        rw [isNumbered]
        split <;> rfl
      have sameRow : table.complete? (.ofNat (numbered.lastNumber table)) now draft =
          table.complete? (.ofNat (tables.lastNumber table + 1)) now draft := by
        rw [isNumbered]
        split
        · simp [useNumber]
        · rename_i given
          exact table.complete?_eq_of_not_needsNumber (Bool.not_eq_true _ ▸ given) _ _ now
      refine ⟨numbered, sameRows, ?_⟩
      cases accepted : numbered.accept table (.ofNat (numbered.lastNumber table)) now draft with
      | error refusal =>
          exact .inl ⟨refusal, by simp only [Tables.insert, drafted, ← isNumbered, accepted]⟩
      | ok result =>
          obtain ⟨row, completed, allowed, rfl⟩ := accept_eq_ok_iff.mp accepted
          exact .inr ⟨row, rfl, sameRow ▸ completed, allowed,
            by simp only [Tables.insert, drafted, ← isNumbered, accepted]⟩

theorem Consistent.insert (consistent : tables.Consistent) (table : Table) (now : Time.Instant)
    (draft : table.Draft) : (tables.insert table now draft).1.Consistent := by
  obtain ⟨numbered, sameRows, ⟨refusal, refused⟩ | ⟨row, _, _, allowed, added⟩⟩ :=
    insert_cases tables table now draft
  · rw [refused]
    exact consistent.of_rows_eq sameRows
  · rw [added]
    exact (consistent.of_rows_eq sameRows).append allowed

/-- The tables that insertions and deletions of rows lead to, whether or not all
of them were accepted. -/
inductive Reachable : Tables → Prop
  | empty : Reachable .empty
  | insert {tables : Tables} (reachable : Reachable tables) (table : Table) (now : Time.Instant)
      (draft : table.Draft) : Reachable (tables.insert table now draft).1
  | delete {tables remaining : Tables} (reachable : Reachable tables) (table : Table)
      (key : table.Key) {count : Nat}
      (deleted : tables.delete table key = .ok (remaining, count)) : Reachable remaining

/-- Whatever rows are inserted and deleted, the tables keep the rules of the
schema. -/
theorem Reachable.consistent (reachable : tables.Reachable) : tables.Consistent := by
  induction reachable with
  | empty => exact consistent_empty
  | insert _ table now draft consistent => exact consistent.insert table now draft
  | delete _ table key deleted consistent => exact consistent.delete deleted

end Tables

end LearnExport.Schema
