import EntSchema.Text.Numeral
import EntSchema.Yaml.Scalar.Fold

/-!
# Quoted scalars

In single quotes only the quote itself is special: two of them stand for one. In double quotes a
backslash starts an escape, and before a line end it takes that line end away. Line ends fold as in
plain scalars, and a marker of a document inside quotes is refused.
-/

namespace EntSchema.Yaml

/-- The character with a code, which must be no surrogate and in the range of Unicode. -/
def charOfCode? (n : Nat) : Option Char :=
  if n.isValidChar then some (Char.ofNat n) else none

/-- The characters that stand for one character after a backslash. -/
def simpleEscapes : List (Char × Char) :=
  [('0', '\x00'), ('a', '\x07'), ('b', '\x08'), ('t', '\t'), ('\t', '\t'), ('n', '\n'),
    ('v', '\x0b'), ('f', '\x0c'), ('r', '\r'), ('e', '\x1b'), (' ', ' '), ('"', '"'), ('/', '/'),
    ('\\', '\\'), ('N', '\u0085'), ('_', '\u00a0'), ('L', '\u2028'), ('P', '\u2029')]

/-- The characters that start a hexadecimal code after a backslash, with its number of digits. -/
def codeEscapes : List (Char × Nat) :=
  [('x', 2), ('u', 4), ('U', 8)]

/-- The character of an escape, where `c` is the place of the backslash, and the place after it. -/
def readEscape (c : Cursor) : Option (Char × Cursor) :=
  match c.rest with
  | '\\' :: e :: rest =>
    match simpleEscapes.lookup e with
    | some x => some (x, c.skip 2)
    | none => do
      let width ← codeEscapes.lookup e
      let digits := rest.take width
      if digits.length < width then none
      else
        let x ← charOfCode? (← Text.natural? 16 digits)
        return (x, c.skip (2 + width))
  | _ => none

/-- A quoted word that was read: its content, the place after it, and whether a backslash before a
line end stopped it. -/
structure QuotedWord where
  content : List Char
  after : Cursor
  isEscapedBreak : Bool := false

/-- The next word of a quoted scalar, where `seen` holds, backwards, its start. -/
def quotedWord (single : Bool) : (fuel : Nat) → (seen : List Char) → Cursor → Option QuotedWord
  | 0, _, _ => none
  | fuel + 1, seen, c =>
    match c.rest with
    | [] => some { content := seen.reverse, after := c }
    | x :: rest =>
      if isGap x then some { content := seen.reverse, after := c }
      else if single then
        if x == '\'' then
          if rest.head? = some '\'' then quotedWord single fuel ('\'' :: seen) (c.skip 2)
          else some { content := seen.reverse, after := c }
        else quotedWord single fuel (x :: seen) (c.skip 1)
      else if x == '"' then some { content := seen.reverse, after := c }
      else if x == '\\' then
        if (c.skip 1).next isBreak then
          some { content := seen.reverse, after := (c.skip 1).skipBreak, isEscapedBreak := true }
        else
          (readEscape c).bind fun (y, after) => quotedWord single fuel (y :: seen) after
      else quotedWord single fuel (x :: seen) (c.skip 1)

/-- The rest of a quoted scalar after the content `seen`, and the place after its last quote. -/
def readQuotedFrom (single : Bool) :
    (fuel : Nat) → (seen : List Char) → Cursor → Option (List Char × Cursor)
  | 0, _, _ => none
  | fuel + 1, seen, c => do
    if c.atDocumentMarker || c.atEnd then none
    let word ← quotedWord single (c.rest.length + 1) [] c
    let seen := seen ++ word.content
    let c := word.after
    if c.next (· == if single then '\'' else '"') then return (seen, c.skip 1)
    let (gap, c) ← Gap.read 0 c.rest.length { isBroken := word.isEscapedBreak } c
    readQuotedFrom single fuel (seen ++ gap.content) c

/-- The quoted scalar at a place, which is the place of its first quote. -/
def readQuoted (single : Bool) (c : Cursor) : Option (List Char × Cursor) :=
  readQuotedFrom single (c.rest.length + 1) [] (c.skip 1)

end EntSchema.Yaml
