import EntSchema.Yaml.Scalar.Block
import EntSchema.Yaml.Scalar.Plain
import EntSchema.Yaml.Scalar.Quoted
import EntSchema.Yaml.Tag

/-!
# From a YAML text to its tokens

Tokens are read from left to right. Two things need more than the next character.

* **Indentation.** Outside brackets every block collection has a column. A line further to the left
  ends the collections to the right of it.
* **Implicit keys.** Only the colon after a node tells that the node is a key. So the place where a
  key may start is remembered, one for every level of brackets, and at the colon a key token is
  inserted there, together with the start of a mapping if a new one begins. An implicit key stays
  on one line and within 1024 characters.

A text that falls into no tokens is refused as a whole; why does not matter here.
-/

namespace EntSchema.Yaml

/-- A place where an implicit key may have started. -/
structure KeyStart where
  /-- The number of tokens before it. -/
  position : Nat
  index : Nat
  line : Nat
  column : Nat
  /-- Whether a key is the only thing that can stand there. -/
  isRequired : Bool
  deriving Repr, Inhabited

/-- The greatest length of an implicit key. -/
def greatestKeyLength : Nat := 1024

/-- How far a text has been cut into tokens. -/
structure Lexer where
  cursor : Cursor
  /-- The tokens, the latest in front. -/
  tokens : List Token := []
  /-- The columns of the open block collections, the innermost in front. -/
  indents : List Nat := []
  /-- For every level of brackets, the innermost in front, where a key may have started. -/
  keyStarts : List (Option KeyStart) := [none]
  /-- Whether an implicit key may start here. -/
  allowsKey : Bool := true
  deriving Inhabited

namespace Lexer

/-- Whether the place is inside brackets. -/
def inFlow (s : Lexer) : Bool := 1 < s.keyStarts.length

/-- The column from which on a line belongs to the innermost block collection and is inside it. -/
def leastColumn (s : Lexer) : Nat :=
  match s.indents with
  | column :: _ => column + 1
  | [] => 0

/-- One more token. -/
def emit (s : Lexer) (token : Token) : Lexer :=
  { s with tokens := token :: s.tokens }

/-- A token in between, after the first `position` tokens. -/
def insert (s : Lexer) (position : Nat) (token : Token) : Lexer :=
  { s with tokens := s.tokens.insertIdx (s.tokens.length - position) token }

/-- Moves on by some characters. -/
def advance (s : Lexer) (n : Nat) : Lexer :=
  { s with cursor := s.cursor.skip n }

/-- Says whether an implicit key may start next. -/
def allowKey (s : Lexer) (allowed : Bool) : Lexer :=
  { s with allowsKey := allowed }

/-! ## Indentation -/

/-- Ends the block collections to the right of a column, or all of them. -/
def closeBlocks (s : Lexer) (column : Option Nat) : Lexer :=
  if s.inFlow then s
  else
    let isOpen (indent : Nat) : Bool := column.all (· < indent)
    let closed := s.indents.takeWhile isOpen
    { s with
      tokens := closed.map (fun _ => Token.blockEnd) ++ s.tokens
      indents := s.indents.drop closed.length }

/-- Starts a block collection at a column, after the first `position` tokens, unless one is open
there. -/
def openBlock (s : Lexer) (column position : Nat) (start : Token) : Lexer :=
  if s.inFlow || column < s.leastColumn then s
  else { s with indents := column :: s.indents }.insert position start

/-- Starts a block collection at the place. -/
def openBlockHere (s : Lexer) (start : Token) : Lexer :=
  s.openBlock s.cursor.column s.tokens.length start

/-! ## Implicit keys -/

/-- Forgets where a key may have started at the innermost level. A required key is missed. -/
def dropKey (s : Lexer) : Option Lexer :=
  match s.keyStarts with
  | some start :: outer =>
    if start.isRequired then none else some { s with keyStarts := none :: outer }
  | _ => some s

/-- Remembers that a key may start here, if it may. -/
def saveKey (s : Lexer) : Option Lexer :=
  if s.allowsKey then do
    let isRequired := !s.inFlow && s.indents.head? == some s.cursor.column
    let start : KeyStart :=
      { position := s.tokens.length, index := s.cursor.index, line := s.cursor.line
        column := s.cursor.column, isRequired }
    let s ← s.dropKey
    return { s with keyStarts := some start :: s.keyStarts.drop 1 }
  else some s

/-- Whether a key that started there would be too long by now, or more than a line. -/
def isStale (s : Lexer) (start : KeyStart) : Bool :=
  start.line < s.cursor.line || start.index + greatestKeyLength < s.cursor.index

/-- Forgets the places at which no key can have started any more. A required key is missed. -/
def dropStaleKeys (s : Lexer) : Option Lexer := do
  let keyStarts ← s.keyStarts.mapM fun
    | some start =>
      if s.isStale start then (if start.isRequired then none else some none)
      else some (some start)
    | none => some none
  return { s with keyStarts }

/-! ## Gaps between tokens -/

/-- Skips blanks, comments and line ends. A tab may not stand where an implicit key may start. -/
def skipGap : (fuel : Nat) → Lexer → Lexer
  | 0, s => s
  | fuel + 1, s =>
    let allowsTab := s.inFlow || !s.allowsKey
    let c := s.cursor.skipWhile fun x => x == ' ' || (allowsTab && x == '\t')
    let c := if c.next (· == '#') then c.skipWhile (!isBreak ·) else c
    let s := { s with cursor := c }
    if c.next isBreak then
      skipGap fuel { s with cursor := c.skipBreak, allowsKey := s.allowsKey || !s.inFlow }
    else s

/-- Skips the mark of the byte order at the start of a text. -/
def skipByteOrderMark (s : Lexer) : Lexer :=
  if s.cursor.index == 0 && s.cursor.next (· == byteOrderMark) then s.advance 1 else s

/-! ## Tokens -/

/-- The end of the text ends all collections. -/
def readEnd (s : Lexer) : Option Lexer := do
  let s ← (s.closeBlocks none).dropKey
  return (s.allowKey false).emit .streamEnd

/-- A directive. -/
def readDirectiveToken (s : Lexer) : Option Lexer := do
  let s ← (s.closeBlocks none).dropKey
  let (token, cursor) ← readDirective s.cursor
  return { (s.allowKey false).emit token with cursor }

/-- A marker of the start or the end of a document. -/
def readDocumentMarker (s : Lexer) (token : Token) : Option Lexer := do
  let s ← (s.closeBlocks none).dropKey
  return ((s.allowKey false).advance 3).emit token

/-- An opening bracket. -/
def readOpening (s : Lexer) (token : Token) : Option Lexer := do
  let s ← s.saveKey
  return (({ s with keyStarts := none :: s.keyStarts }.allowKey true).advance 1).emit token

/-- A closing bracket. -/
def readClosing (s : Lexer) (token : Token) : Option Lexer := do
  let s ← s.dropKey
  let keyStarts := if s.inFlow then s.keyStarts.drop 1 else s.keyStarts
  return (({ s with keyStarts }.allowKey false).advance 1).emit token

/-- A comma between brackets. -/
def readFlowEntry (s : Lexer) : Option Lexer := do
  let s ← s.dropKey
  return ((s.allowKey true).advance 1).emit .flowEntry

/-- The hyphen of an item. Outside brackets it stands where a key may start. -/
def readBlockEntry (s : Lexer) : Option Lexer := do
  if !s.inFlow && !s.allowsKey then none
  let s ← (s.openBlockHere .blockSequenceStart).dropKey
  return ((s.allowKey true).advance 1).emit .blockEntry

/-- The question mark of an explicit key. Outside brackets it stands where a key may start. -/
def readKey (s : Lexer) : Option Lexer := do
  if !s.inFlow && !s.allowsKey then none
  let s ← (s.openBlockHere .blockMappingStart).dropKey
  return ((s.allowKey !s.inFlow).advance 1).emit .key

/-- The colon before a value. If a key may have started, it did; its tokens are inserted there. -/
def readValue (s : Lexer) : Option Lexer := do
  match s.keyStarts with
  | some start :: outer =>
    let s := (s.insert start.position .key).openBlock start.column start.position .blockMappingStart
    let s := { s with keyStarts := none :: outer }
    return ((s.allowKey false).advance 1).emit .value
  | _ =>
    if !s.inFlow && !s.allowsKey then none
    let s := s.openBlockHere .blockMappingStart
    return ((s.allowKey !s.inFlow).advance 1).emit .value

/-- A token that a key can start with, by its reader. -/
def readWith (s : Lexer) (read : Cursor → Option (Token × Cursor)) : Option Lexer := do
  let s ← s.saveKey
  let (token, cursor) ← read s.cursor
  return { (s.allowKey false).emit token with cursor }

/-- A block scalar. -/
def readBlockToken (s : Lexer) (folded : Bool) : Option Lexer := do
  let s ← s.dropKey
  let (content, cursor) ← readBlock folded s.indents.head? s.cursor
  let style := if folded then Style.folded else .literal
  return { (s.allowKey true).emit (.scalar (.ofList content) style) with cursor }

/-- A quoted scalar. -/
def readQuotedToken (s : Lexer) (single : Bool) : Option Lexer :=
  s.readWith fun c => (readQuoted single c).map fun (content, c) =>
    (.scalar (.ofList content) .quoted, c)

/-- A plain scalar. After a line end a key may start. -/
def readPlainToken (s : Lexer) : Option Lexer := do
  let s ← s.saveKey
  let scalar ← readPlain s.inFlow s.leastColumn s.cursor
  let s := (s.allowKey scalar.endsLine).emit (.scalar (.ofList scalar.content) .plain)
  return { s with cursor := scalar.after }

/-- The characters that no plain scalar starts with, exceptions apart. -/
def indicators : List Char :=
  ['-', '?', ':', ',', '[', ']', '\x7b', '\x7d', '#', '&', '*', '!', '|', '>', '\x27', '"', '%',
    '@', '\x60']

/-- Whether a plain scalar starts at a place with the character `x`. -/
def startsPlain (s : Lexer) (x : Char) : Bool :=
  let after := s.cursor.skip 1
  !(isGap x || indicators.contains x) ||
    (x == '-' && !after.next isBlank) ||
    (!s.inFlow && (x == '?' || x == ':') && !after.atGap)

/-- The token that starts with the character `x` at the place. -/
def readAt (s : Lexer) (x : Char) : Option Lexer :=
  let endsHere := (s.cursor.skip 1).atGap
  if s.cursor.column == 0 && x == '%' then s.readDirectiveToken
  else if s.cursor.atMarker '-' then s.readDocumentMarker .documentStart
  else if s.cursor.atMarker '.' then s.readDocumentMarker .documentEnd
  else if x == '[' then s.readOpening .flowSequenceStart
  else if x == '\x7b' then s.readOpening .flowMappingStart
  else if x == ']' then s.readClosing .flowSequenceEnd
  else if x == '\x7d' then s.readClosing .flowMappingEnd
  else if x == ',' then s.readFlowEntry
  else if x == '-' && endsHere then s.readBlockEntry
  else if x == '?' && (s.inFlow || endsHere) then s.readKey
  else if x == ':' && (s.inFlow || endsHere) then s.readValue
  else if x == '*' then s.readWith fun c => (readName c).map fun (name, c) => (.reference name, c)
  else if x == '&' then s.readWith fun c => (readName c).map fun (name, c) => (.anchor name, c)
  else if x == '!' then s.readWith (readTag s.inFlow)
  else if x == '|' && !s.inFlow then s.readBlockToken false
  else if x == '>' && !s.inFlow then s.readBlockToken true
  else if x == '\x27' then s.readQuotedToken true
  else if x == '"' then s.readQuotedToken false
  else if s.startsPlain x then s.readPlainToken
  else none

/-- The next token, with what goes before it. -/
def step (s : Lexer) : Option Lexer := do
  let s ← (s.skipGap (s.cursor.rest.length + 1)).dropStaleKeys
  let s := s.closeBlocks (some s.cursor.column)
  match s.cursor.rest with
  | [] => s.readEnd
  | x :: _ => s.readAt x

/-- All tokens from a place on, up to the end of the text. -/
def run : (fuel : Nat) → Lexer → Option (List Token)
  | 0, _ => none
  | fuel + 1, s => do
    let s ← s.step
    match s.tokens with
    | .streamEnd :: _ => return s.tokens.reverse
    | _ => run fuel s

end Lexer

/-- The tokens of a text. -/
def tokens? (text : String) : Option (List Token) :=
  let chars := text.toList
  if chars.all isPrintable then
    let start : Lexer := { cursor := { rest := chars } }
    start.skipByteOrderMark.run (chars.length + 1)
  else none

end EntSchema.Yaml
