import LearnExport.Text.Quoted

/-!
# When a program snapshot is taken

A snapshot is taken either at every execution of a program or at every edit.
Stored data names the two in lower case; any other name is unknown.
-/

namespace LearnExport

/-- The occasion of a program snapshot. -/
inductive Granularity where
  | execution
  | edit
deriving DecidableEq, Repr

namespace Granularity

/-- The name in stored data and in rows. -/
def name : Granularity → String
  | execution => "execution"
  | edit => "edit"

def ofName? (name : String) : Option Granularity :=
  if name = "execution" then some execution
  else if name = "edit" then some edit
  else none

@[simp]
theorem ofName?_name (granularity : Granularity) : ofName? granularity.name = some granularity := by
  cases granularity <;> simp [ofName?, name]

theorem name_of_ofName? {name : String} {granularity : Granularity}
    (known : ofName? name = some granularity) : granularity.name = name := by
  unfold ofName? at known
  split at known
  · rename_i isExecution
    rw [isExecution, ← Option.some.inj known, Granularity.name]
  · split at known
    · rename_i isEdit
      rw [isEdit, ← Option.some.inj known, Granularity.name]
    · exact absurd known (by simp)

/-- Why stored data with an unknown name cannot be used. -/
def unknownMessage (name : String) : String :=
  "unknown snapshot granularity " ++ Text.quoted name

/-- Why an input with an unknown name is refused. -/
def unknownVariantMessage (name : String) : String :=
  "unknown variant `" ++ name ++ "`, expected `execution` or `edit`"

end Granularity

end LearnExport
