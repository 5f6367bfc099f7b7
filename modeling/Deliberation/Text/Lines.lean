import Deliberation.Text.Blank
/-! Splitting a text into lines. A line feed ends a line, a carriage return directly before it
belongs to the ending, and a last line needs no ending. -/

namespace Deliberation.Text

def dropReturn : List Char → List Char
  | '\r' :: line => line
  | line => line

/-- The lines of a text whose first line continues the given reversed characters. -/
def linesFrom : List Char → List Char → List (List Char)
  | [], [] => []
  | c :: line, [] => [(c :: line).reverse]
  | line, c :: rest =>
    if c = '\n' then (dropReturn line).reverse :: linesFrom [] rest else linesFrom (c :: line) rest

/-- The lines of a text, without their endings. -/
def lines (text : List Char) : List (List Char) :=
  linesFrom [] text

def unlines (lines : List String) : String :=
  "\n".intercalate lines

end Deliberation.Text
