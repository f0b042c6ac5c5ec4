import LearnExport.Record.Basic

/-!
# Scopes

A listing asks for every record of an entity, a retrieval for those with one id.
-/

namespace LearnExport

/-- Which records of an entity are asked for. -/
inductive Scope where
  /-- Every record. -/
  | all
  /-- The records with one id. -/
  | one (id : Int64)
deriving DecidableEq, Repr

namespace Scope

/-- The id that is asked for, if only one is. -/
def id? : Scope → Option Int64
  | all => none
  | one id => some id

/-- Whether records with an id are asked for. -/
def includes (scope : Scope) (id : Int64) : Bool :=
  match scope with
  | all => true
  | one wanted => wanted == id

theorem filter_all {α : Type} (id : α → Int64) (records : List α) :
    (records.filter fun record => all.includes (id record)) = records :=
  List.filter_eq_self.mpr fun _ _ => rfl

end Scope

end LearnExport
