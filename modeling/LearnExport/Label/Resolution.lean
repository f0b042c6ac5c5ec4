import LearnExport.Store.Basic

/-!
# Labels in the place of ids

Whoever enters a level or a task names its toolbox or its level by the label. A
label is resolved to an id if exactly one record carries it.
-/

namespace LearnExport

/-- The id of the one record of an entity with a label. The field in which the
label was given is named in the error. -/
def resolveLabel (store : Store) (field : String) (entity : Entity) (label : String) :
    Except ApiError Int64 :=
  match store.idsLabelled entity label with
  | .error error => .error (.store error)
  | .ok [id] => .ok id
  | .ok [] => .error (.validation field (.unknown label))
  | .ok (_ :: _ :: _) => .error (.validation field .ambiguous)

/-- A level as it is entered. -/
structure LevelInput where
  level : Int32
  name : String
  credits : Int32
  toolbox : String
deriving DecidableEq, Repr

/-- A level whose toolbox is known. -/
structure ResolvedLevel where
  level : Int32
  name : String
  credits : Int32
  toolboxId : Int64
deriving DecidableEq, Repr

/-- Finds the toolbox of an entered level. -/
def LevelInput.resolve (input : LevelInput) (store : Store) : Except ApiError ResolvedLevel :=
  (resolveLabel store "toolbox" .toolbox input.toolbox).map fun toolboxId =>
    { level := input.level, name := input.name, credits := input.credits, toolboxId }

/-- A task as it is entered. -/
structure TaskInput where
  name : String
  level : String
  setting : String
  solution : String
deriving DecidableEq, Repr

/-- A task whose level is known. -/
structure ResolvedTask where
  name : String
  levelId : Int64
  setting : String
  solution : String
deriving DecidableEq, Repr

/-- Finds the level of an entered task. -/
def TaskInput.resolve (input : TaskInput) (store : Store) : Except ApiError ResolvedTask :=
  (resolveLabel store "level" .level input.level).map fun levelId =>
    { name := input.name, levelId, setting := input.setting, solution := input.solution }

end LearnExport
