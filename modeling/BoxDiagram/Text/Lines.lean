import BoxDiagram.Text.Char

namespace BoxDiagram.Text

/-!
# The lines of a text
-/

/-- A line without the carriage return at its end, if it has one. -/
def dropReturn (line : List Char) : List Char :=
  if line.getLast? = some '\r' then line.dropLast else line

/--
The lines of a text. A line feed, alone or after a carriage return, ends a line;
characters after the last line feed are a line of their own.
-/
def lines (text : List Char) : List (List Char) :=
  let parts := splitOn '\n' text
  let rest := parts.getLast?.getD []
  parts.dropLast.map dropReturn ++ if rest.isEmpty then [] else [rest]

end BoxDiagram.Text
