/-!
# Characters and places of a YAML text

The classes of characters that the tokens of a YAML text are made of, and a cursor: the text from a
place on, with the line, the column and the count of characters before it. Indentation is a matter
of columns, and an implicit key is bounded by line and count.

A line ends at a line feed, a carriage return, both, a next-line character, or one of the two
Unicode separators. A line end becomes a line feed in the content of a scalar; the separators stay
as they are.
-/

namespace EntSchema.Yaml

/-- The characters that a YAML text may contain. -/
def isPrintable (c : Char) : Bool :=
  let n := c.toNat
  n == 0x9 || n == 0xA || n == 0xD || (0x20 ≤ n && n ≤ 0x7E) || n == 0x85 ||
    (0xA0 ≤ n && n ≤ 0xFFFD) || 0x10000 ≤ n

/-- Spaces and tabs. -/
def isBlank (c : Char) : Bool :=
  c == ' ' || c == '\t'

/-- Characters that end a line. -/
def isBreak (c : Char) : Bool :=
  c == '\r' || c == '\n' || c == '\u0085' || c == '\u2028' || c == '\u2029'

/-- Characters that no word of a YAML text contains. -/
def isGap (c : Char) : Bool :=
  isBlank c || isBreak c

/-- Letters, digits, hyphens and underscores of ASCII. -/
def isNameChar (c : Char) : Bool :=
  c.isAlphanum || c == '_' || c == '-'

/-- The mark that a text may start with to give its byte order. -/
def byteOrderMark : Char := '\uFEFF'

/-- A place in a text: what follows, and where it is. -/
structure Cursor where
  rest : List Char
  index : Nat := 0
  line : Nat := 0
  column : Nat := 0
  deriving Repr, Inhabited

namespace Cursor

/-- The place after some characters, none of which ends a line. -/
def skip (c : Cursor) (n : Nat) : Cursor :=
  { c with rest := c.rest.drop n, index := c.index + n, column := c.column + n }

/-- The characters from a place on that satisfy a condition, and the place after them. -/
def takeWhile (c : Cursor) (p : Char → Bool) : List Char × Cursor :=
  let taken := c.rest.takeWhile p
  (taken, c.skip taken.length)

/-- The place after the characters that satisfy a condition. -/
def skipWhile (c : Cursor) (p : Char → Bool) : Cursor :=
  (c.takeWhile p).2

/-- Whether a text is over. -/
def atEnd (c : Cursor) : Bool := c.rest.isEmpty

/-- Whether the next character satisfies a condition; not at the end of the text. -/
def next (c : Cursor) (p : Char → Bool) : Bool :=
  match c.rest with
  | x :: _ => p x
  | [] => false

/-- Whether no word goes on at a place: there is a gap, or the text is over. -/
def atGap (c : Cursor) : Bool := c.atEnd || c.next isGap

/-- Whether a line is over at a place: it ends there, or the text does. -/
def atLineEnd (c : Cursor) : Bool := c.atEnd || c.next isBreak

/-- The place at the start of the next line, and the line end as content. -/
def readBreak (c : Cursor) : List Char × Cursor :=
  let below (content : List Char) (rest : List Char) (n : Nat) : List Char × Cursor :=
    (content, { rest := rest, index := c.index + n, line := c.line + 1, column := 0 })
  match c.rest with
  | '\r' :: '\n' :: rest => below ['\n'] rest 2
  | '\u2028' :: rest => below ['\u2028'] rest 1
  | '\u2029' :: rest => below ['\u2029'] rest 1
  | x :: rest => if isBreak x then below ['\n'] rest 1 else ([], c)
  | [] => ([], c)

/-- The place at the start of the next line. -/
def skipBreak (c : Cursor) : Cursor := c.readBreak.2

/-- The place after blanks, a comment and a line end; absent when there is more on the line. -/
def skipLineRest? (c : Cursor) : Option Cursor :=
  let c := c.skipWhile isBlank
  let c := if c.next (· == '#') then c.skipWhile (!isBreak ·) else c
  if c.atLineEnd then some c.skipBreak else none

/-- Whether a line starts at a place with three given characters and a gap. -/
def atMarker (c : Cursor) (x : Char) : Bool :=
  c.column == 0 && [x, x, x].isPrefixOf c.rest && (c.skip 3).atGap

/-- Whether a marker of the start or the end of a document is at a place. -/
def atDocumentMarker (c : Cursor) : Bool := c.atMarker '-' || c.atMarker '.'

end Cursor

end EntSchema.Yaml
