import EntSchema.Text.Numeral
import EntSchema.Unicode.Blank

/-!
# Go string literals

An interpreted Go string literal stands between double quotes. Quotes, backslashes and control
characters are escaped, so a literal never spans two lines; all other characters, non-ASCII ones
included, stand for themselves.
-/

namespace EntSchema.Schema

/-- A character as it stands inside a literal. -/
def literalChar (c : Char) : List Char :=
  if c = '"' then ['\\', '"']
  else if c = '\\' then ['\\', '\\']
  else if c = '\n' then ['\\', 'n']
  else if c = '\r' then ['\\', 'r']
  else if c = '\t' then ['\\', 't']
  else if Unicode.isControl c then '\\' :: 'u' :: Text.hexDigits 4 c.toNat
  else [c]

/-- The literal for a text, over characters. -/
def literalChars (s : List Char) : List Char :=
  '"' :: s.flatMap literalChar ++ ['"']

/-- The literal for a text. -/
def goLiteral (s : String) : String :=
  String.ofList (literalChars s.toList)

/-- A text between double quotes, as it is. -/
def inQuotes (s : String) : String := "\"" ++ s ++ "\""

end EntSchema.Schema
