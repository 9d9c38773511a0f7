import PasteQueue.Text.Blank

/-!
The lines of a text. A line ends with a line feed, and a carriage return in front of that belongs to
the end.
-/

namespace PasteQueue.Text

def dropReturn (line : List Char) : List Char :=
  if line.getLast? = some '\r' then line.dropLast else line

def lines (text : List Char) : List (List Char) := (text.splitOn '\n').map dropReturn

end PasteQueue.Text
