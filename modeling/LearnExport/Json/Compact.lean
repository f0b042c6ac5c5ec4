import LearnExport.Json.Basic
import LearnExport.Number.Layout

/-!
# The compact text of a JSON value

No space is written between the parts of a value, and members keep their order.
In a string only the quote, the backslash and the control characters below the
space are escaped, the latter by `\b`, `\f`, `\n`, `\r`, `\t` or else by `\u00`
and two lower-case hexadecimal digits.
-/

namespace LearnExport.Json

def escapedCharacter (character : Char) : List Char :=
  match character with
  | '"' => ['\\', '"']
  | '\\' => ['\\', '\\']
  | '\x08' => ['\\', 'b']
  | '\x0c' => ['\\', 'f']
  | '\n' => ['\\', 'n']
  | '\r' => ['\\', 'r']
  | '\t' => ['\\', 't']
  | _ =>
      if character.toNat < 0x20 then
        ['\\', 'u', '0', '0', if character.toNat < 0x10 then '0' else '1'] ++
          Text.hexadecimal (character.toNat % 16)
      else [character]

def stringText (value : String) : List Char :=
  '"' :: value.toList.flatMap escapedCharacter ++ ['"']

mutual

def characters : Json → List Char
  | .null => ['n', 'u', 'l', 'l']
  | .bool true => ['t', 'r', 'u', 'e']
  | .bool false => ['f', 'a', 'l', 's', 'e']
  | .integer value => Text.integer value
  | .double value => Number.Layout.row.double value
  | .string value => stringText value
  | .array elements => '[' :: elementCharacters elements ++ [']']
  | .object members => '{' :: memberCharacters members ++ ['}']

def elementCharacters : List Json → List Char
  | [] => []
  | [element] => characters element
  | element :: next :: others => characters element ++ ',' :: elementCharacters (next :: others)

/-- The members of an object with a comma between neighbours. -/
def memberCharacters : List (String × Json) → List Char
  | [] => []
  | [(key, value)] => stringText key ++ ':' :: characters value
  | (key, value) :: next :: others =>
      stringText key ++ ':' :: characters value ++ ',' :: memberCharacters (next :: others)

end

def compact (value : Json) : String :=
  String.ofList value.characters

end LearnExport.Json
