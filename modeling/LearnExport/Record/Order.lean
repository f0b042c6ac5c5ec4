import LearnExport.Record.Stored

/-!
# The order of records

Blocks are listed by their order and levels by their number; records of equal
place, and all records of the other entities, are listed by id. Records that
even share their id keep the order in which they are given.
-/

namespace LearnExport

/-- Where a record is listed: its place, then its id. -/
structure Rank where
  place : Int
  id : Int
deriving DecidableEq, Repr

/-- Whether a record of the first rank may be listed before one of the
second. -/
def Rank.precedes (first second : Rank) : Bool :=
  first.place < second.place || (first.place == second.place && first.id ≤ second.id)

theorem Rank.precedes_total (first second : Rank) :
    (first.precedes second || second.precedes first) = true := by
  simp only [precedes, Bool.or_eq_true, Bool.and_eq_true, decide_eq_true_eq, beq_iff_eq]
  omega

/-- Whatever is preceded by a rank is preceded by all that come before that
rank. -/
theorem Rank.precedes_trans {first second third : Rank}
    (before : first.precedes second = true) (after : second.precedes third = true) :
    first.precedes third = true := by
  simp only [precedes, Bool.or_eq_true, Bool.and_eq_true, decide_eq_true_eq, beq_iff_eq] at *
  omega

/-- Ranks that precede each other are equal. -/
theorem Rank.eq_of_precedes {first second : Rank}
    (before : first.precedes second = true) (after : second.precedes first = true) :
    first = second := by
  cases first
  cases second
  simp only [precedes, Bool.or_eq_true, Bool.and_eq_true, decide_eq_true_eq, beq_iff_eq] at *
  simp only [Rank.mk.injEq]
  omega

def sortedByRank {α : Type} (rank : α → Rank) (records : List α) : List α :=
  records.mergeSort fun first second => (rank first).precedes (rank second)

/-- Sorting neither loses nor repeats a record. -/
theorem sortedByRank_perm {α : Type} (rank : α → Rank) (records : List α) :
    (sortedByRank rank records).Perm records :=
  List.mergeSort_perm _ _

theorem pairwise_sortedByRank {α : Type} (rank : α → Rank) (records : List α) :
    (sortedByRank rank records).Pairwise fun first second =>
      (rank first).precedes (rank second) = true := by
  refine List.pairwise_mergeSort ?_ ?_ records
  · intro first second third before after
    exact Rank.precedes_trans before after
  · intro first second
    exact Rank.precedes_total (rank first) (rank second)

/-- The rank of a record that has no place but its id. -/
def idRank (id : Int64) : Rank where
  place := 0
  id := id.toInt

def Block.rank (block : Block) : Rank where
  place := block.order.toInt
  id := block.id.toInt

def Level.rank (level : Level) : Rank where
  place := level.level.toInt
  id := level.id.toInt

def StoredLevel.rank (level : StoredLevel) : Rank where
  place := level.level.toInt
  id := level.id.toInt

@[simp]
theorem StoredLevel.rank_withRelations (level : StoredLevel) (toolbox : Related)
    (tasks : List Related) : (level.withRelations toolbox tasks).rank = level.rank := rfl

def Related.rank (record : Related) : Rank :=
  idRank record.id

namespace Entity

def rank : (entity : Entity) → entity.Record → Rank
  | block, record => record.rank
  | level, record => record.rank
  | toolbox, record => idRank record.id
  | instruction, record => idRank record.id
  | task, record => idRank record.id
  | student, record => idRank record.id
  | taskSession, record => idRank record.id
  | programSnapshot, record => idRank record.id
  | action, record => idRank record.id

theorem rank_id (entity : Entity) (record : entity.Record) :
    (entity.rank record).id = (entity.recordId record).toInt := by
  cases entity <;> rfl

def sorted (entity : Entity) (records : List entity.Record) : List entity.Record :=
  sortedByRank entity.rank records

end Entity

end LearnExport
