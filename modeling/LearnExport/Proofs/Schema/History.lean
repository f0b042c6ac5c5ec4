import LearnExport.Proofs.Schema.Consistency

/-!
# What happens to the tables

The tables change by one row at a time: a row is inserted, or the row with a key
is deleted, and either may be refused. Whatever has been tried, the tables keep
the schema, here written out column by column. A refused change changes no row.
A deletion is refused for the sake of the rows that need the deleted one, and
else takes with it just the rows that belong to it.
-/

namespace LearnExport.Schema.Tables

variable {tables : Tables} {table other : Table}

/-- A change of one row, accepted or not. -/
inductive Change where
  | insert (table : Table) (now : Time.Instant) (draft : table.Draft)
  | delete (table : Table) (key : table.Key)

/-- The tables after a change, and why it was refused if it was. -/
def change (tables : Tables) : Change → Tables × Option Refusal
  | .insert table now draft => tables.insert table now draft
  | .delete table key =>
      match tables.delete table key with
      | .ok (remaining, _) => (remaining, none)
      | .error refusal => (tables, some refusal)

def changed (tables : Tables) (changes : List Change) : Tables :=
  changes.foldl (fun current change => (current.change change).1) tables

theorem Reachable.change (reachable : tables.Reachable) (change : Change) :
    (tables.change change).1.Reachable := by
  cases change with
  | insert table now draft => exact reachable.insert table now draft
  | delete table key =>
      rw [Tables.change]
      cases deleted : tables.delete table key with
      | ok result => exact reachable.delete table key deleted
      | error refusal => exact reachable

theorem Reachable.changed (reachable : tables.Reachable) (changes : List Change) :
    (tables.changed changes).Reachable := by
  induction changes generalizing tables with
  | nil => exact reachable
  | cons first others ih => exact ih (reachable.change first)

/-! ### The schema, column by column -/

def Unique {κ : Type} (tables : Tables) (table : Table) (columns : table.Row → κ) : Prop :=
  ((tables.rows table).map columns).Nodup

/-- The rules of the schema, for each of the tables. -/
structure KeepsSchema (tables : Tables) : Prop where
  ids : tables.Unique .blocks (·.id) ∧ tables.Unique .toolboxes (·.id) ∧
    tables.Unique .levels (·.id) ∧ tables.Unique .tasks (·.id) ∧
    tables.Unique .instructions (·.id) ∧ tables.Unique .students (·.id) ∧
    tables.Unique .taskSessions (·.id) ∧ tables.Unique .programSnapshots (·.id) ∧
    tables.Unique .actions (·.id) ∧ tables.Unique .tokens (·.key)
  names : tables.Unique .blocks (·.name) ∧ tables.Unique .toolboxes (·.name) ∧
    tables.Unique .levels (·.name) ∧ tables.Unique .tasks (·.name) ∧
    tables.Unique .instructions (·.name)
  pairs : tables.Unique .toolboxBlocks (fun row => (row.toolboxId, row.blockId)) ∧
    tables.Unique .seenInstructions (fun row => (row.studentId, row.instructionId)) ∧
    tables.Unique .tokenPermissions (fun row => (row.key, row.codename))
  memberships : ∀ row ∈ tables.rows .toolboxBlocks,
    (∃ toolbox ∈ tables.rows .toolboxes, toolbox.id = row.toolboxId) ∧
      ∃ block ∈ tables.rows .blocks, block.id = row.blockId
  levels : ∀ row ∈ tables.rows .levels,
    ∃ toolbox ∈ tables.rows .toolboxes, toolbox.id = row.toolboxId
  tasks : ∀ row ∈ tables.rows .tasks, ∃ level ∈ tables.rows .levels, level.id = row.levelId
  sightings : ∀ row ∈ tables.rows .seenInstructions,
    (∃ student ∈ tables.rows .students, student.id = row.studentId) ∧
      ∃ instruction ∈ tables.rows .instructions, instruction.id = row.instructionId
  sessions : ∀ row ∈ tables.rows .taskSessions,
    (∃ student ∈ tables.rows .students, student.id = row.studentId) ∧
      ∃ task ∈ tables.rows .tasks, task.id = row.taskId
  snapshots : ∀ row ∈ tables.rows .programSnapshots,
    ∃ session ∈ tables.rows .taskSessions, session.id = row.taskSessionId
  actions : ∀ row ∈ tables.rows .actions,
    (∃ student ∈ tables.rows .students, student.id = row.studentId) ∧
      ∀ taskId, row.taskId = some taskId → ∃ task ∈ tables.rows .tasks, task.id = taskId
  grants : ∀ row ∈ tables.rows .tokenPermissions,
    ∃ token ∈ tables.rows .tokens, token.key = row.key
  granularities : ∀ row ∈ tables.rows .programSnapshots,
    row.granularity = "execution" ∨ row.granularity = "edit"
  judgements : ∀ row ∈ tables.rows .programSnapshots,
    row.granularity = "edit" → row.correct = none

theorem Consistent.unique_key (consistent : tables.Consistent) (table : Table) :
    tables.Unique table table.key :=
  consistent.keys_nodup table

theorem Consistent.unique_name (consistent : tables.Consistent) {name : table.Row → String}
    (isName : ∀ row, table.uniqueName? row = some (name row)) : tables.Unique table name := by
  have distinct := consistent.names_nodup table
  rw [funext isName, List.filterMap_eq_map'] at distinct
  exact distinct

theorem Consistent.exists_row (consistent : tables.Consistent) (reference : Reference)
    {row : reference.source.Row} (member : row ∈ tables.rows reference.source)
    {key : reference.target.Key} (refers : reference.key? row = some key) :
    ∃ found ∈ tables.rows reference.target, reference.target.key found = key :=
  hasKey_iff.mp (consistent.references_exist reference member refers)

theorem Consistent.check_holds (consistent : tables.Consistent) {row : SnapshotRow}
    (member : row ∈ tables.rows .programSnapshots) (check : Check) : check.holds row = true := by
  have noneBroken := List.find?_eq_none.mp (consistent.checks_hold .programSnapshots member)
  have listed : check ∈ [Check.judgement, .granularity] := by
    cases check <;> decide
  simpa using noneBroken check listed

theorem Consistent.keepsSchema (consistent : tables.Consistent) : tables.KeepsSchema where
  ids := ⟨consistent.unique_key .blocks, consistent.unique_key .toolboxes,
    consistent.unique_key .levels, consistent.unique_key .tasks,
    consistent.unique_key .instructions, consistent.unique_key .students,
    consistent.unique_key .taskSessions, consistent.unique_key .programSnapshots,
    consistent.unique_key .actions, consistent.unique_key .tokens⟩
  names := ⟨consistent.unique_name fun _ => rfl, consistent.unique_name fun _ => rfl,
    consistent.unique_name fun _ => rfl, consistent.unique_name fun _ => rfl,
    consistent.unique_name fun _ => rfl⟩
  pairs := ⟨consistent.unique_key .toolboxBlocks, consistent.unique_key .seenInstructions,
    consistent.unique_key .tokenPermissions⟩
  memberships _ member := ⟨consistent.exists_row .membershipToolbox member rfl,
    consistent.exists_row .membershipBlock member rfl⟩
  levels _ member := consistent.exists_row .levelToolbox member rfl
  tasks _ member := consistent.exists_row .taskLevel member rfl
  sightings _ member := ⟨consistent.exists_row .sightingStudent member rfl,
    consistent.exists_row .sightingInstruction member rfl⟩
  sessions _ member := ⟨consistent.exists_row .sessionStudent member rfl,
    consistent.exists_row .sessionTask member rfl⟩
  snapshots _ member := consistent.exists_row .snapshotSession member rfl
  actions _ member := ⟨consistent.exists_row .actionStudent member rfl,
    fun _ isTask => consistent.exists_row .actionTask member isTask⟩
  grants _ member := consistent.exists_row .grantToken member rfl
  granularities row member := by
    have holds := consistent.check_holds member .granularity
    rwa [Check.holds, Bool.or_eq_true, beq_iff_eq, beq_iff_eq] at holds
  judgements row member isEdit := by
    have holds := consistent.check_holds member .judgement
    rw [Check.holds, isEdit, Bool.or_eq_true, Option.isNone_iff_eq_none] at holds
    exact holds.resolve_left (by decide)

/-! ### Deletions, column by column -/

/-- Whether a row of another table belongs to the row with a key. -/
def belongsTo : (table : Table) → table.Key → (other : Table) → other.Row → Bool
  | .toolboxes, id, .toolboxBlocks, row => row.toolboxId == id
  | .blocks, id, .toolboxBlocks, row => row.blockId == id
  | .students, id, .seenInstructions, row => row.studentId == id
  | .instructions, id, .seenInstructions, row => row.instructionId == id
  | .taskSessions, id, .programSnapshots, row => row.taskSessionId == id
  | .tokens, key, .tokenPermissions, row => row.key == key
  | _, _, _, _ => false

/-- That some row needs the row with a key. -/
def IsNeeded (tables : Tables) : (table : Table) → table.Key → Prop
  | .toolboxes, id => ∃ level ∈ tables.rows .levels, level.toolboxId = id
  | .levels, id => ∃ task ∈ tables.rows .tasks, task.levelId = id
  | .students, id => (∃ session ∈ tables.rows .taskSessions, session.studentId = id) ∨
      ∃ action ∈ tables.rows .actions, action.studentId = id
  | .tasks, id => (∃ session ∈ tables.rows .taskSessions, session.taskId = id) ∨
      ∃ action ∈ tables.rows .actions, action.taskId = some id
  | .blocks, _ | .instructions, _ | .taskSessions, _ | .programSnapshots, _ | .actions, _
  | .toolboxBlocks, _ | .seenInstructions, _ | .tokens, _ | .tokenPermissions, _ => False

theorem refers_self {reference : Reference} {row : reference.source.Row}
    {key : reference.target.Key} :
    reference.refers row key = true ↔ reference.key? row = some key := by
  rw [Reference.refers_iff]
  exact ⟨fun ⟨_, _, isKey⟩ => isKey, fun isKey => ⟨rfl, rfl, isKey⟩⟩

/-- The rows that belong to a row are those that refer to it by a reference that
cascades. -/
theorem belongsTo_iff {key : table.Key} {row : other.Row} :
    belongsTo table key other row = true ↔
      ∃ reference : Reference, reference.cascades = true ∧ reference.refers row key = true := by
  constructor
  · intro belongs
    unfold belongsTo at belongs
    split at belongs
    · exact ⟨.membershipToolbox, rfl, refers_self.mpr (congrArg some (beq_iff_eq.mp belongs))⟩
    · exact ⟨.membershipBlock, rfl, refers_self.mpr (congrArg some (beq_iff_eq.mp belongs))⟩
    · exact ⟨.sightingStudent, rfl, refers_self.mpr (congrArg some (beq_iff_eq.mp belongs))⟩
    · exact ⟨.sightingInstruction, rfl, refers_self.mpr (congrArg some (beq_iff_eq.mp belongs))⟩
    · exact ⟨.snapshotSession, rfl, refers_self.mpr (congrArg some (beq_iff_eq.mp belongs))⟩
    · exact ⟨.grantToken, rfl, refers_self.mpr (congrArg some (beq_iff_eq.mp belongs))⟩
    · exact absurd belongs (by decide)
  · rintro ⟨reference, cascades, refersToIt⟩
    obtain ⟨isSource, isTarget, isKey⟩ := Reference.refers_iff.mp refersToIt
    subst isSource isTarget
    cases reference with
    | levelToolbox | taskLevel | sessionStudent | sessionTask | actionStudent | actionTask =>
        exact absurd cascades (by decide)
    | membershipToolbox | membershipBlock | sightingStudent | sightingInstruction
    | snapshotSession | grantToken => exact beq_iff_eq.mpr (Option.some.inj isKey)

/-- The rows that need a row are those that refer to it by a reference that does
not cascade. -/
theorem isNeeded_iff {key : table.Key} :
    tables.IsNeeded table key ↔ ∃ reference, tables.isKept table key reference = true := by
  have keeps (reference : Reference) {row : reference.source.Row} {key : reference.target.Key}
      (restricts : reference.cascades = false) (member : row ∈ tables.rows reference.source)
      (isKey : reference.key? row = some key) :
      ∃ reference', tables.isKept reference.target key reference' = true := by
    refine ⟨reference, ?_⟩
    simp only [isKept, restricts, Bool.not_false, Bool.true_and, List.any_eq_true]
    exact ⟨row, member, refers_self.mpr isKey⟩
  constructor
  · intro needed
    cases table with
    | toolboxes =>
        obtain ⟨level, member, isKey⟩ := needed
        exact keeps .levelToolbox rfl member (congrArg some isKey)
    | levels =>
        obtain ⟨task, member, isKey⟩ := needed
        exact keeps .taskLevel rfl member (congrArg some isKey)
    | students =>
        rcases needed with ⟨session, member, isKey⟩ | ⟨action, member, isKey⟩
        · exact keeps .sessionStudent rfl member (congrArg some isKey)
        · exact keeps .actionStudent rfl member (congrArg some isKey)
    | tasks =>
        rcases needed with ⟨session, member, isKey⟩ | ⟨action, member, isKey⟩
        · exact keeps .sessionTask rfl member (congrArg some isKey)
        · exact keeps .actionTask rfl member isKey
    | blocks | instructions | taskSessions | programSnapshots | actions | toolboxBlocks
    | seenInstructions | tokens | tokenPermissions => exact needed.elim
  · rintro ⟨reference, isKept⟩
    rw [Tables.isKept, Bool.and_eq_true, Bool.not_eq_true', List.any_eq_true] at isKept
    obtain ⟨restricts, row, member, refersToIt⟩ := isKept
    obtain ⟨_, isTarget, isKey⟩ := Reference.refers_iff.mp refersToIt
    subst isTarget
    cases reference with
    | membershipToolbox | membershipBlock | sightingStudent | sightingInstruction
    | snapshotSession | grantToken => exact absurd restricts (by decide)
    | levelToolbox | taskLevel => exact ⟨row, member, Option.some.inj isKey⟩
    | sessionStudent | sessionTask => exact .inl ⟨row, member, Option.some.inj isKey⟩
    | actionStudent => exact .inr ⟨row, member, Option.some.inj isKey⟩
    | actionTask => exact .inr ⟨row, member, isKey⟩

theorem goesWith_self (key : table.Key) (row : table.Row) :
    goesWith table key row = (table.key row == key) := by
  rw [Bool.eq_iff_iff, goesWith_iff, beq_iff_eq]
  constructor
  · rintro (⟨_, isKey⟩ | ⟨reference, cascades, refersToIt⟩)
    · exact isKey
    · obtain ⟨isSource, isTarget, _⟩ := Reference.refers_iff.mp refersToIt
      exact absurd (isSource.symm.trans isTarget) (Reference.source_ne_target_of_cascades cascades)
  · exact fun isKey => .inl ⟨rfl, isKey⟩

theorem goesWith_of_ne (different : other ≠ table) (key : table.Key) (row : other.Row) :
    goesWith table key row = belongsTo table key other row := by
  rw [Bool.eq_iff_iff, goesWith_iff, belongsTo_iff]
  exact or_iff_right fun ⟨same, _⟩ => different same

/-- A deletion from consistent tables is refused exactly for the sake of rows that
need the deleted one. -/
theorem Consistent.delete_refused_iff (consistent : tables.Consistent) {key : table.Key} :
    (∃ refusal, tables.delete table key = .error refusal) ↔ tables.IsNeeded table key := by
  rw [isNeeded_iff]
  constructor
  · rintro ⟨refusal, refused⟩
    by_contra noneKeeps
    have noReference : ∀ reference, tables.isKept table key reference = false := fun reference =>
      Bool.eq_false_iff.mpr fun isKept => noneKeeps ⟨reference, isKept⟩
    cases found : tables.hasKey table key with
    | false =>
        have unchanged := delete_eq_ok_iff.mpr (.inl ⟨found, rfl, rfl⟩)
        rw [refused] at unchanged
        exact absurd unchanged (by simp)
    | true =>
        have accepted := delete_eq_ok_iff.mpr (.inr ⟨found, noReference, rfl, rfl⟩)
        rw [refused] at accepted
        exact absurd accepted (by simp)
  · rintro ⟨reference, isKept⟩
    have isReferred : tables.hasKey table key = true := by
      rw [Tables.isKept, Bool.and_eq_true, List.any_eq_true] at isKept
      obtain ⟨_, row, member, refersToIt⟩ := isKept
      obtain ⟨_, isTarget, isKey⟩ := Reference.refers_iff.mp refersToIt
      subst isTarget
      exact consistent.references_exist reference member isKey
    cases deleted : tables.delete table key with
    | error refusal => exact ⟨refusal, rfl⟩
    | ok result =>
        rcases delete_eq_ok_iff.mp deleted with ⟨absent, _⟩ | ⟨_, noReference, _⟩
        · rw [isReferred] at absent
          exact absurd absent (by decide)
        · rw [noReference reference] at isKept
          exact absurd isKept (by decide)

/-- An accepted deletion leaves all rows but the deleted one and those that belong
to it. -/
theorem Consistent.rows_of_delete (consistent : tables.Consistent) {remaining : Tables}
    {key : table.Key} {count : Nat} (deleted : tables.delete table key = .ok (remaining, count)) :
    remaining.rows table = ((tables.rows table).filter fun row => table.key row != key) ∧
      ∀ other, other ≠ table → remaining.rows other =
        (tables.rows other).filter fun row => !belongsTo table key other row := by
  have sameRows : remaining.rows = (tables.without table key).rows := by
    rcases delete_eq_ok_iff.mp deleted with ⟨absent, rfl, _⟩ | ⟨_, _, rfl, _⟩
    · exact (consistent.rows_without_of_absent absent).symm
    · rfl
  rw [sameRows]
  constructor
  · exact List.filter_congr fun row _ => congrArg (! ·) (goesWith_self key row)
  · intro other different
    exact List.filter_congr fun row _ => congrArg (! ·) (goesWith_of_ne different key row)

/-- A refused change leaves all rows as they were. -/
theorem rows_of_refused {change : Change} {refusal : Refusal}
    (refused : (tables.change change).2 = some refusal) :
    (tables.change change).1.rows = tables.rows := by
  cases change with
  | insert table now draft =>
      obtain ⟨numbered, sameRows, ⟨reason, outcome⟩ | ⟨row, _, _, _, outcome⟩⟩ :=
        insert_cases tables table now draft
      · rw [Tables.change, outcome]
        exact sameRows
      · rw [Tables.change, outcome] at refused
        exact absurd refused (by simp)
  | delete table key =>
      rw [Tables.change] at refused ⊢
      cases deleted : tables.delete table key with
      | error reason => rfl
      | ok result => simp [deleted] at refused

/-- An accepted insertion puts the row to which its draft is completed after the rows of its
table. -/
theorem rows_of_insert {now : Time.Instant} {draft : table.Draft}
    (accepted : (tables.insert table now draft).2 = none) :
    ∃ row, table.complete? (.ofNat (tables.lastNumber table + 1)) now draft = some row ∧
      (tables.insert table now draft).1.rows table = tables.rows table ++ [row] ∧
      ∀ other, other ≠ table →
        (tables.insert table now draft).1.rows other = tables.rows other := by
  obtain ⟨numbered, sameRows, ⟨refusal, outcome⟩ | ⟨row, _, completed, _, outcome⟩⟩ :=
    insert_cases tables table now draft
  · rw [outcome] at accepted
    exact absurd accepted (by simp)
  · rw [outcome, ← sameRows]
    exact ⟨row, completed, rows_append_self numbered table row,
      fun other different => rows_append_of_ne numbered row different.symm⟩

/-- Whatever changes have been tried on empty tables, the tables keep the schema.
The next change leaves all rows as they were if it is refused. If it is an accepted
insertion, it adds the completed row to its table and no others. If it is a
deletion, it is refused exactly when some row needs the deleted one, and otherwise
removes this one with the rows that belong to it and no others. -/
theorem changes_keep_schema (changes : List Change) :
    let tables := empty.changed changes
    tables.KeepsSchema ∧
      (∀ change refusal, (tables.change change).2 = some refusal →
        (tables.change change).1.rows = tables.rows) ∧
      (∀ table now draft, (tables.change (.insert table now draft)).2 = none →
        ∃ row, table.complete? (.ofNat (tables.lastNumber table + 1)) now draft = some row ∧
          (tables.change (.insert table now draft)).1.rows table = tables.rows table ++ [row] ∧
          ∀ other, other ≠ table →
            (tables.change (.insert table now draft)).1.rows other = tables.rows other) ∧
      ∀ table key,
        ((∃ refusal, (tables.change (.delete table key)).2 = some refusal) ↔
          tables.IsNeeded table key) ∧
        ((tables.change (.delete table key)).2 = none →
          (tables.change (.delete table key)).1.rows table =
              ((tables.rows table).filter fun row => table.key row != key) ∧
            ∀ other, other ≠ table → (tables.change (.delete table key)).1.rows other =
              (tables.rows other).filter fun row => !belongsTo table key other row) := by
  intro tables
  have consistent : tables.Consistent := (Reachable.empty.changed changes).consistent
  refine ⟨consistent.keepsSchema, fun change refusal => rows_of_refused,
    fun table now draft => rows_of_insert, fun table key => ?_⟩
  rw [← consistent.delete_refused_iff, Tables.change]
  cases deleted : tables.delete table key with
  | error refusal => simp
  | ok result =>
      refine ⟨by simp, fun _ => ?_⟩
      exact consistent.rows_of_delete deleted

/-- A toolbox with a block and with a level that needs it. -/
def toolboxChanges : List Change :=
  [.insert .toolboxes .epoch ⟨.omitted, .given "loops"⟩,
    .insert .blocks .epoch ⟨.omitted, .given "repeat", .omitted⟩,
    .insert .toolboxBlocks .epoch ⟨.given 1, .given 1⟩,
    .insert .levels .epoch ⟨.omitted, .given 3, .given "first", .given 5, .given 1⟩]

/-- A toolbox that a level needs is not deleted and keeps its block. The block is deleted and
taken out of the toolbox, and a second block is entered with the next number. -/
theorem changes_keep_schema_of_toolbox :
    let tables := empty.changed toolboxChanges
    ((∃ refusal, (tables.change (.delete .toolboxes 1)).2 = some refusal) ∧
        (tables.change (.delete .toolboxes 1)).1.rows .toolboxBlocks = [⟨1, 1⟩]) ∧
      ((tables.change (.delete .blocks 1)).2 = none ∧
        (tables.change (.delete .blocks 1)).1.rows .blocks = [] ∧
        (tables.change (.delete .blocks 1)).1.rows .toolboxBlocks = []) ∧
      (tables.change (.insert .blocks .epoch ⟨.omitted, .given "while", .omitted⟩)).1.rows .blocks =
        [⟨1, "repeat", 0⟩, ⟨2, "while", 0⟩] := by
  intro tables
  obtain ⟨_, refused, inserted, deleted⟩ := changes_keep_schema toolboxChanges
  have memberships : tables.rows .toolboxBlocks = [⟨1, 1⟩] := by decide
  have needed : tables.IsNeeded .toolboxes 1 := ⟨⟨1, 3, "first", 5, 1⟩, by decide, rfl⟩
  obtain ⟨refusal, isRefused⟩ := (deleted .toolboxes 1).1.mpr needed
  have isDeleted : (tables.change (.delete .blocks 1)).2 = none := by decide
  obtain ⟨otherBlocks, ofOthers⟩ := (deleted .blocks 1).2 isDeleted
  have otherMemberships := ofOthers .toolboxBlocks (by decide)
  obtain ⟨row, isRow, blocks, _⟩ :=
    inserted .blocks .epoch ⟨.omitted, .given "while", .omitted⟩ (by decide)
  refine ⟨⟨⟨refusal, isRefused⟩, ?_⟩, ⟨isDeleted, ?_, ?_⟩, ?_⟩
  · exact (congrFun (refused _ refusal isRefused) .toolboxBlocks).trans memberships
  · exact otherBlocks.trans (by decide)
  · exact otherMemberships.trans (by decide)
  · have completed : Table.complete? (.ofNat (tables.lastNumber .blocks + 1)) .epoch .blocks
        ⟨.omitted, .given "while", .omitted⟩ = some ⟨2, "while", 0⟩ := by decide
    rw [blocks, Option.some.inj (isRow.symm.trans completed)]
    decide

end LearnExport.Schema.Tables
