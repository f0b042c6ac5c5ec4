import LearnExport.Number.Binary64

/-!
# JSON values

A JSON value with the members of its objects in order. A number is an integer
or a double, and the two are never the same value: `1` and `1.0` are written
differently.
-/

namespace LearnExport

/-- A JSON value. -/
inductive Json where
  | null
  | bool (value : Bool)
  | integer (value : Int)
  | double (value : Number.Binary64)
  | string (value : String)
  | array (elements : List Json)
  | object (members : List (String × Json))
deriving Inhabited

namespace Json

def member? (key : String) (members : List (String × Json)) : Option Json :=
  members.lookup key

/-- A double as a JSON value: only real numbers are JSON numbers, all else is
null. -/
def ofDouble (number : Number.Binary64) : Json :=
  if number.isFinite then .double number else .null

/-- A value that may be missing: null if it is. -/
def ofOption {α : Type} (toJson : α → Json) : Option α → Json
  | some value => toJson value
  | none => .null

end Json

end LearnExport
