import EntSchema.Text.Pieces
import EntSchema.Unicode.Blank
import EntSchema.Unicode.CaseMapping

/-!
# The words of a name

A name is made of words with separators between them: underscores, hyphens and blanks. Empty words
do not count, so neither repeated separators nor separators at the ends of a name matter.
-/

namespace EntSchema.Naming

/-- Whether `c` separates the words of a name. -/
def isSeparator (c : Char) : Bool :=
  c == '_' || c == '-' || Unicode.isBlank c

/-- The words of a name, in order. -/
def words (name : List Char) : List (List Char) :=
  (Text.pieces isSeparator name).filter (!·.isEmpty)

/-- A word with its first character in capitals. -/
def capitalize : List Char → List Char
  | [] => []
  | c :: rest => Unicode.capital c ++ rest

/-- A name up to and including its last separator, and the word after it. -/
def splitLastWord : List Char → List Char × List Char
  | [] => ([], [])
  | c :: rest =>
    let (front, word) := splitLastWord rest
    if front.isEmpty && !isSeparator c then ([], c :: word) else (c :: front, word)

end EntSchema.Naming
