import LearnExport.Proofs.Store.MemoryListing
import LearnExport.Proofs.Store.TableListing

/-!
# The records with one id

Whoever asks for the records with one id gets those that a listing of all records
has with this id, in the same order and with the same related records: what is
asked for is chosen before records are joined and sorted, but neither depends on
the other records that were asked for.
-/

namespace LearnExport

open Schema

def Entity.withId (entity : Entity) (id : Int64) (records : List entity.Record) :
    List entity.Record :=
  records.filter fun record => entity.recordId record == id

theorem Entity.withId_eq_nil_iff {entity : Entity} {id : Int64} {records : List entity.Record} :
    entity.withId id records = [] ↔ ∀ record ∈ records, entity.recordId record ≠ id := by
  simp [withId]

/-- Choosing the records with one id before sorting is choosing them after. -/
theorem Entity.sorted_filter_one (entity : Entity) (id : Int64) (records : List entity.Record) :
    entity.sorted (records.filter fun record => (Scope.one id).includes (entity.recordId record)) =
      entity.withId id (entity.sorted (records.filter fun record =>
        Scope.all.includes (entity.recordId record))) := by
  have oneAsked : (fun record => (Scope.one id).includes (entity.recordId record)) =
      fun record => entity.recordId record == id := by
    funext record
    exact BEq.comm
  rw [withId, Scope.filter_all, oneAsked]
  exact (filter_sortedByRank entity.rank _ records).symm

theorem Memory.fetch_one (memory : Memory) (entity : Entity) (id : Int64) :
    memory.fetch entity (.one id) = entity.withId id (memory.fetch entity .all) := by
  rw [memory.fetch_eq_sorted, memory.fetch_eq_sorted]
  exact entity.sorted_filter_one id (memory.records entity)

theorem Schema.Tables.listing_one (tables : Tables) (entity : Entity) (id : Int64) :
    tables.listing entity (.one id) = entity.withId id (tables.listing entity .all) :=
  entity.sorted_filter_one id (tables.records entity)

/-- The stores of a service in use: whatever has been entered into memory, and the
tables that insertions and deletions lead to, read in one way or the other. -/
inductive Store.InUse : Store → Prop
  | memory (memory : Memory) : InUse memory.toStore
  | tables {tables : Tables} (reachable : tables.Reachable) (loading : RelationLoading) :
      InUse ((Database.ofTables tables).toStore loading)

theorem Store.InUse.exists_listing {store : Store} (inUse : store.InUse) (entity : Entity) :
    ∃ listed, store.fetch entity .all = .ok listed ∧
      ∀ id, store.fetch entity (.one id) = .ok (entity.withId id listed) := by
  cases inUse with
  | memory memory =>
      refine ⟨memory.fetch entity .all, rfl, fun id => ?_⟩
      exact congrArg Except.ok (memory.fetch_one entity id)
  | @tables tables reachable loading =>
      have listed (scope : Scope) :=
        Database.fetch_ofTables reachable.consistent loading entity scope
      refine ⟨tables.listing entity .all, listed .all, fun id => ?_⟩
      exact (listed (.one id)).trans (congrArg Except.ok (tables.listing_one entity id))

end LearnExport
