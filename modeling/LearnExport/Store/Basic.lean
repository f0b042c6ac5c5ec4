import LearnExport.Access.Basic
import LearnExport.Record.Scope

/-!
# Stores

A store answers three questions: which records of an entity there are, which of
them carry a label, and to whom a token belongs. Everything the export shows is
built from these answers.
-/

namespace LearnExport

/-- A source of records. Any answer may fail. -/
structure Store where
  /-- The records of an entity, in the order in which they are listed. -/
  fetch : (entity : Entity) → Scope → Except StoreError (List entity.Record)
  /-- The ids of the records of an entity with a label, in ascending order. -/
  idsLabelled : Entity → String → Except StoreError (List Int64)
  /-- The owner of an active token. -/
  principal : String → Except StoreError (Option Principal)

end LearnExport
