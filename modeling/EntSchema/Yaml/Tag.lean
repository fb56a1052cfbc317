import EntSchema.Text.Numeral
import EntSchema.Yaml.Cursor
import EntSchema.Yaml.Token

/-!
# Anchors, tags and directives

The parts of a YAML text that say something about a node or about the document. An anchor or alias
is a name. A tag is a handle and a suffix, or a whole tag between angle brackets. A directive gives
the version of the language or the meaning of a handle.
-/

namespace EntSchema.Yaml

/-! ## Anchors -/

/-- The characters that may follow a name besides a gap. -/
def nameEnds : List Char := ['?', ':', ',', ']', '\x7d', '%', '@', '\x60']

/-- The name of an anchor or alias, where `c` is the place of its indicator. -/
def readName (c : Cursor) : Option (String × Cursor) :=
  let (name, c) := (c.skip 1).takeWhile isNameChar
  if name.isEmpty || !(c.atGap || c.next nameEnds.contains) then none
  else some (.ofList name, c)

/-! ## Tags -/

/-- The characters of a tag besides those of names. -/
def tagMarks : List Char :=
  [';', '/', '?', ':', '@', '&', '=', '+', '$', '.', '%', '!', '~', '*', '\x27', '(', ')']

/-- Whether a character can stand in a tag. In a tag between angle brackets, commas and square
brackets can, too. -/
def isTagChar (whole : Bool) (x : Char) : Bool :=
  isNameChar x || tagMarks.contains x || (whole && [',', '[', ']'].contains x)

/-- The octet that a percent sign and two hexadecimal digits stand for. -/
def readOctet (s : List Char) : Option (Nat × List Char) :=
  match s with
  | '%' :: a :: b :: rest => (Text.natural? 16 [a, b]).map fun n => (n, rest)
  | _ => none

/-- How many octets follow the first octet of a character, and its own bits. -/
def leadOctet? (n : Nat) : Option (Nat × Nat) :=
  if n < 0x80 then some (0, n)
  else if n / 0x20 = 0x06 then some (1, n % 0x20)
  else if n / 0x10 = 0x0E then some (2, n % 0x10)
  else if n / 0x08 = 0x1E then some (3, n % 0x08)
  else none

/-- The further octets of a character, whose code starts with `code`. -/
def readContinuation (code : Nat) : Nat → List Char → Option (Nat × List Char)
  | 0, s => some (code, s)
  | n + 1, s => do
    let (octet, rest) ← readOctet s
    if octet / 0x40 = 2 then readContinuation (code * 0x40 + octet % 0x40) n rest else none

/-- The character that a row of escaped octets stands for. -/
def readOctets (s : List Char) : Option (Char × List Char) := do
  let (first, rest) ← readOctet s
  let (count, bits) ← leadOctet? first
  let (code, rest) ← readContinuation bits count rest
  return (Char.ofNat code, rest)

/-- The text of a tag with its escapes resolved. -/
def unescapeTag : (fuel : Nat) → List Char → Option (List Char)
  | 0, _ => some []
  | fuel + 1, s =>
    match s with
    | [] => some []
    | '%' :: _ => do
      let (x, rest) ← readOctets s
      return x :: (← unescapeTag fuel rest)
    | x :: rest => (unescapeTag fuel rest).map (x :: ·)

/-- The tag characters at a place as a text, and the place after them. -/
def readTagText (whole : Bool) (c : Cursor) : Option (List Char × Cursor) :=
  let (raw, c) := c.takeWhile (isTagChar whole)
  (unescapeTag raw.length raw).map fun text => (text, c)

/-- A handle at a place: an exclamation mark, a name, and possibly another exclamation mark. -/
def readHandle (c : Cursor) : Option (List Char × Cursor) :=
  if c.next (· == '!') then
    let (name, c) := (c.skip 1).takeWhile isNameChar
    if c.next (· == '!') then some ('!' :: name ++ ['!'], c.skip 1) else some ('!' :: name, c)
  else none

/-- Whether a handle ends in an exclamation mark of its own. -/
def isClosedHandle (handle : List Char) : Bool :=
  1 < handle.length && handle.getLast? == some '!'

/-- A tag between angle brackets. -/
def readWholeTag (c : Cursor) : Option (Token × Cursor) := do
  let (text, c) ← readTagText true (c.skip 2)
  if text.isEmpty || !c.next (· == '>') then none
  else return (.tag "" (.ofList text), c.skip 1)

/-- A tag with a handle. Without a closed handle the handle is a single exclamation mark, and a
single exclamation mark alone is a whole tag. -/
def readHandledTag (c : Cursor) : Option (Token × Cursor) := do
  let (handle, c) ← readHandle c
  let (text, c) ← readTagText false c
  if isClosedHandle handle then
    if text.isEmpty then none else return (.tag (.ofList handle) (.ofList text), c)
  else
    let suffix := handle.drop 1 ++ text
    if suffix.isEmpty then return (.tag "" "!", c)
    else return (.tag "!" (.ofList suffix), c)

/-- The tag at a place. A gap follows it, or a comma inside brackets. -/
def readTag (inFlow : Bool) (c : Cursor) : Option (Token × Cursor) := do
  let isWhole := ['!', '<'].isPrefixOf c.rest
  let (token, c) ← if isWhole then readWholeTag c else readHandledTag c
  if (inFlow && c.next (· == ',')) || c.atGap then return (token, c) else none

/-! ## Directives -/

/-- The greatest length of a version number. -/
def greatestNumberLength : Nat := 9

/-- A version number at a place. -/
def readVersionNumber (c : Cursor) : Option (Nat × Cursor) :=
  let (digits, c) := c.takeWhile Char.isDigit
  if greatestNumberLength < digits.length then none
  else (Text.natural? 10 digits).map fun n => (n, c)

/-- The version of a version directive. -/
def readVersion (c : Cursor) : Option (Token × Cursor) := do
  let (major, c) ← readVersionNumber (c.skipWhile isBlank)
  if !c.next (· == '.') then none
  else
    let (minor, c) ← readVersionNumber (c.skip 1)
    return (.versionDirective major minor, c)

/-- The handle of a tag directive and what it stands for. -/
def readTagDirective (c : Cursor) : Option (Token × Cursor) := do
  let (handle, c) ← readHandle (c.skipWhile isBlank)
  if !(isClosedHandle handle || handle = ['!']) || !c.next isBlank then none
  else
    let (start, c) ← readTagText true (c.skipWhile isBlank)
    if start.isEmpty || !c.atGap then none
    else return (.tagDirective (.ofList handle) (.ofList start), c)

/-- The directive at a place, which is the place of its percent sign, to the end of its line. -/
def readDirective (c : Cursor) : Option (Token × Cursor) := do
  let (name, c) := (c.skip 1).takeWhile isNameChar
  if name.isEmpty || !c.atGap then none
  else
    let (token, c) ←
      if name = "YAML".toList then readVersion c
      else if name = "TAG".toList then readTagDirective c
      else none
    return (token, ← c.skipLineRest?)

end EntSchema.Yaml
