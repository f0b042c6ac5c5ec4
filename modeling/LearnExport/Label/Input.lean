import LearnExport.Json.Basic
import LearnExport.Label.Resolution
import LearnExport.Number.Layout
import LearnExport.Text.Quoted

/-!
# Reading what is entered

A level or a task is entered as a JSON object, whose other members are ignored,
or as the array of its four fields in order. Whatever is given is checked in the
order in which it is given; only then is a missing field reported, in the order
of the fields.
-/

namespace LearnExport

/-- What is expected at some place of an input. -/
inductive Expectation where
  | number
  | text
  | level
  | task
deriving DecidableEq, Repr

def Expectation.name : Expectation → String
  | number => "i32"
  | text => "a string"
  | level => "struct LevelInput"
  | task => "struct TaskInput"

/-- Why an input cannot be read. -/
inductive MalformedInput where
  | missingField (name : String)
  | unexpected (found : Json) (expected : Expectation)
  /-- An integer has more than 32 bits. -/
  | numberOutOfRange (number : Int)
  | tooFewElements (count : Nat) (expected : Expectation)
  | tooManyElements (count : Nat)

namespace MalformedInput

/-- How a message refers to a value. -/
def description : Json → String
  | .null => "null"
  | .bool value => "boolean `" ++ (if value then "true" else "false") ++ "`"
  | .integer value => "integer `" ++ String.ofList (Text.integer value) ++ "`"
  | .double value => "floating point `" ++ String.ofList (Number.Layout.row.double value) ++ "`"
  | .string value => "string " ++ Text.quoted value
  | .array _ => "sequence"
  | .object _ => "map"

/-- The message about an input that cannot be read. -/
def message : MalformedInput → String
  | missingField name => "missing field `" ++ name ++ "`"
  | unexpected found expected =>
      "invalid type: " ++ description found ++ ", expected " ++ expected.name
  | numberOutOfRange number =>
      "invalid value: " ++ description (.integer number) ++ ", expected " ++
        Expectation.number.name
  | tooFewElements count expected =>
      "invalid length " ++ String.ofList (Text.decimal count) ++ ", expected " ++ expected.name ++
        " with 4 elements"
  | tooManyElements count =>
      "invalid length " ++ String.ofList (Text.decimal count) ++
        ", expected fewer elements in array"

end MalformedInput

namespace Input

def number : Json → Except MalformedInput Int32
  | .integer value =>
      if Int32.minValue.toInt ≤ value ∧ value ≤ Int32.maxValue.toInt then .ok (.ofInt value)
      else .error (.numberOutOfRange value)
  | found => .error (.unexpected found .number)

def text : Json → Except MalformedInput String
  | .string value => .ok value
  | found => .error (.unexpected found .text)

/-- The member of an object that a field needs. -/
def member (members : List (String × Json)) (name : String) : Except MalformedInput Json :=
  match Json.member? name members with
  | some value => .ok value
  | none => .error (.missingField name)

/-- The element of an array that a field needs. -/
def element (whole : Expectation) (elements : List Json) (index : Nat) :
    Except MalformedInput Json :=
  match elements[index]? with
  | some value => .ok value
  | none => .error (.tooFewElements elements.length whole)

/-- Refuses an array with more elements than there are fields. -/
def noMore (elements : List Json) : Except MalformedInput Unit :=
  if 4 < elements.length then .error (.tooManyElements elements.length) else .ok ()

end Input

namespace LevelInput

def checkMember : String × Json → Except MalformedInput Unit
  | ("level", value) | ("credits", value) => discard (Input.number value)
  | ("name", value) | ("toolbox", value) => discard (Input.text value)
  | _ => .ok ()

def ofMembers (members : List (String × Json)) : Except MalformedInput LevelInput := do
  members.forM checkMember
  let level ← Input.number (← Input.member members "level")
  let name ← Input.text (← Input.member members "name")
  let credits ← Input.number (← Input.member members "credits")
  let toolbox ← Input.text (← Input.member members "toolbox")
  return { level, name, credits, toolbox }

def ofElements (elements : List Json) : Except MalformedInput LevelInput := do
  let level ← Input.number (← Input.element .level elements 0)
  let name ← Input.text (← Input.element .level elements 1)
  let credits ← Input.number (← Input.element .level elements 2)
  let toolbox ← Input.text (← Input.element .level elements 3)
  Input.noMore elements
  return { level, name, credits, toolbox }

def ofJson : Json → Except MalformedInput LevelInput
  | .object members => ofMembers members
  | .array elements => ofElements elements
  | found => .error (.unexpected found .level)

end LevelInput

namespace TaskInput

def checkMember : String × Json → Except MalformedInput Unit
  | ("name", value) | ("level", value) | ("setting", value) | ("solution", value) =>
      discard (Input.text value)
  | _ => .ok ()

def ofMembers (members : List (String × Json)) : Except MalformedInput TaskInput := do
  members.forM checkMember
  let name ← Input.text (← Input.member members "name")
  let level ← Input.text (← Input.member members "level")
  let setting ← Input.text (← Input.member members "setting")
  let solution ← Input.text (← Input.member members "solution")
  return { name, level, setting, solution }

def ofElements (elements : List Json) : Except MalformedInput TaskInput := do
  let name ← Input.text (← Input.element .task elements 0)
  let level ← Input.text (← Input.element .task elements 1)
  let setting ← Input.text (← Input.element .task elements 2)
  let solution ← Input.text (← Input.element .task elements 3)
  Input.noMore elements
  return { name, level, setting, solution }

def ofJson : Json → Except MalformedInput TaskInput
  | .object members => ofMembers members
  | .array elements => ofElements elements
  | found => .error (.unexpected found .task)

end TaskInput

end LearnExport
