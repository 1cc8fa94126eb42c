/-!
# Lines of a text

A line feed ends a line, and one carriage return before it belongs to the line
end. The text behind the last line feed is a line only when it is not empty.
-/

namespace SpriteMachine.Text

/-- A line without one carriage return at its end. -/
def dropReturn (line : List Char) : List Char :=
  if line.getLast? = some '\r' then line.dropLast else line

/-- The lines of a text, in order: `current` holds the characters of the open
line in reverse. -/
def linesFrom (current : List Char) : List Char → List (List Char)
  | [] => if current = [] then [] else [current.reverse]
  | c :: rest =>
    if c = '\n' then dropReturn current.reverse :: linesFrom [] rest
    else linesFrom (c :: current) rest

/-- The lines of a text without their ends. A carriage return without a line
feed behind it belongs to its line. -/
def lines (text : List Char) : List (List Char) := linesFrom [] text

end SpriteMachine.Text
