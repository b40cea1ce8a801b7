/-!
# Lines

A line ends with a line feed, or with a carriage return and a line feed; neither belongs to the
line. Text after the last line end is a line of its own when it is not empty.
-/

namespace FormFlow.Text

/-- Put a character in front of the first line. -/
def consLine (c : Char) : List (List Char) → List (List Char)
  | [] => [[c]]
  | line :: rest => (c :: line) :: rest

/-- The lines of a text, without their ends. -/
def lines : List Char → List (List Char)
  | [] => []
  | '\n' :: rest => [] :: lines rest
  | '\r' :: '\n' :: rest => [] :: lines rest
  | c :: rest => consLine c (lines rest)

end FormFlow.Text
