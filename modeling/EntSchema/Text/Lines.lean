/-!
# The lines of a text

A line ends at a line feed, and a carriage return right before that line feed belongs to the line
end. A text that ends in a line feed has no empty last line, and the empty text has no line.
-/

namespace EntSchema.Text

/-- A finished line, given backwards, without the carriage return of its line end. -/
def closeLine : List Char → List Char
  | '\r' :: rest => rest.reverse
  | rest => rest.reverse

/-- The lines of a text whose first line starts with `seen`, given backwards. -/
def linesAfter (seen : List Char) : List Char → List (List Char)
  | [] => if seen.isEmpty then [] else [seen.reverse]
  | c :: rest =>
    if c = '\n' then closeLine seen :: linesAfter [] rest
    else linesAfter (c :: seen) rest

/-- The lines of a text. -/
def lines (s : List Char) : List (List Char) :=
  linesAfter [] s

end EntSchema.Text
