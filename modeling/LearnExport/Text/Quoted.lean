import LearnExport.Text.Ascii
import LearnExport.Text.EscapedByNumber

/-!
# Quoted text

The form in which a message quotes a text that came from outside: between
double quotes, with a backslash before `"` and `\`, the letters of the usual
escapes for tab, line feed, carriage return and NUL, and `\u` with the
character's number in braces for every other character that could not be seen
on its own.
-/

namespace LearnExport.Text

def quotedCharacter (character : Char) : List Char :=
  match character with
  | '"' => ['\\', '"']
  | '\\' => ['\\', '\\']
  | '\n' => ['\\', 'n']
  | '\r' => ['\\', 'r']
  | '\t' => ['\\', 't']
  | '\x00' => ['\\', '0']
  | _ =>
      if isEscapedByNumber character then
        ['\\', 'u', '{'] ++ hexadecimal character.toNat ++ ['}']
      else [character]

def quoted (text : String) : String :=
  String.ofList ('"' :: text.toList.flatMap quotedCharacter ++ ['"'])

end LearnExport.Text
