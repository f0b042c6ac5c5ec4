/-!
# Pieces of a text between separators

A text with `n` separators has `n + 1` pieces, any of which may be empty; the
pieces joined by the separator are the text again.
-/

namespace LearnExport.Text

/-- The parts of a text before the first separator and after it, if it has
one. -/
def splitAtFirst (separator : Char) : List Char → Option (List Char × List Char)
  | [] => none
  | character :: rest =>
      if character = separator then some ([], rest)
      else (splitAtFirst separator rest).map fun parts => (character :: parts.1, parts.2)

def extendFirst (character : Char) : List (List Char) → List (List Char)
  | [] => [[character]]
  | piece :: others => (character :: piece) :: others

def pieces (separator : Char) : List Char → List (List Char)
  | [] => [[]]
  | character :: rest =>
      if character = separator then [] :: pieces separator rest
      else extendFirst character (pieces separator rest)

/-- Texts written one after the other with a separator between neighbours. -/
def joinWith (separator : List Char) : List (List Char) → List Char
  | [] => []
  | [text] => text
  | text :: others => text ++ separator ++ joinWith separator others

end LearnExport.Text
