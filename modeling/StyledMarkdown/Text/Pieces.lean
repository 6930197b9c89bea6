/-!
# Pieces

A text cut at every occurrence of a character.
-/

namespace StyledMarkdown.Text

/-- Cuts what is left of a text; `current` is the piece so far, latest character first. -/
def piecesFrom (separator : Char) (current : List Char) : List Char → List (List Char)
  | [] => [current.reverse]
  | c :: rest =>
    if c == separator then current.reverse :: piecesFrom separator [] rest
    else piecesFrom separator (c :: current) rest

/-- **The pieces of a text** between the occurrences of a character, at
least one of them. -/
def pieces (separator : Char) (cs : List Char) : List (List Char) := piecesFrom separator [] cs

/-- Texts one after another with a character between them. -/
def joinPieces (separator : Char) : List (List Char) → List Char
  | [] => []
  | [last] => last
  | piece :: rest => piece ++ separator :: joinPieces separator rest

end StyledMarkdown.Text
