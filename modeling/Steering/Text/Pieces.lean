import Steering.Text.Blank

/-!
# Pieces of a text

A text is cut at every occurrence of a separator. Comma lists, as tags and addresses are given on
a line, are the trimmed pieces between commas that are not blank; lines are the pieces between
line ends.
-/

namespace Steering.Text

/-- The pieces of the rest of a text; `begun` holds the characters of the current piece, latest
first. -/
def piecesFrom (separator : Char) (begun : List Char) : List Char → List (List Char)
  | [] => [begun.reverse]
  | c :: rest =>
    if c = separator then begun.reverse :: piecesFrom separator [] rest
    else piecesFrom separator (c :: begun) rest

/-- The pieces of a text between separators; there is one more of them than separators. -/
def pieces (separator : Char) (cs : List Char) : List (List Char) := piecesFrom separator [] cs

/-- The items of a comma-separated list. -/
def splitList (text : String) : List String :=
  (((pieces ',' text.toList).map trimChars).filter (fun item => !item.isEmpty)).map String.ofList

/-- The lines of a text. A line ends with a line feed, or a carriage return and a line feed; the
last one need not end. -/
def lines (cs : List Char) : List (List Char) :=
  let all := pieces '\n' cs
  let ended := (all.dropLast).map fun line =>
    if line.getLast? = some '\r' then line.dropLast else line
  match all.getLast? with
  | some [] | none => ended
  | some last => ended ++ [last]

end Steering.Text
