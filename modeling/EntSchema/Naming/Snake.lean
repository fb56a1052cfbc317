import EntSchema.Unicode.CaseMapping
import EntSchema.Unicode.Letter

/-!
# Snake case

A camel case name is cut in front of the capitals that start a word, and then written in small
letters. The first and the last character never start a word after the first. Any other capital
does when a small letter comes before it, or when it is the last of several capitals: a letter
comes before it that does not start a word itself, and a small letter comes after it.
-/

namespace EntSchema.Naming

/-- Whether the capital `c` starts a word between `previous` and `next`. -/
def startsWord (previous : Char) (previousStarts : Bool) (c next : Char) : Bool :=
  Unicode.isUppercase c &&
    (Unicode.isLowercase previous ||
      (!previousStarts && Unicode.isLowercase next && Unicode.isAlphabetic previous))

/-- The rest of a name in snake case, after a character that started a word or did not. -/
def snakeAfter (previous : Char) (previousStarts : Bool) : List Char → List Char
  | [] => []
  | [c] => Unicode.small c
  | c :: next :: rest =>
    let starts := startsWord previous previousStarts c next
    let here := if starts then '_' :: Unicode.small c else Unicode.small c
    here ++ snakeAfter c starts (next :: rest)

/-- A camel case name in snake case, over characters. -/
def snakeChars : List Char → List Char
  | [] => []
  | c :: rest => Unicode.small c ++ snakeAfter c true rest

/-- A camel case name in snake case: `HTTPCode` becomes `http_code`. -/
def snake (name : String) : String :=
  String.ofList (snakeChars name.toList)

end EntSchema.Naming
