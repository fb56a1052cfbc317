import EntSchema.Text.Numeral
import EntSchema.Yaml.Cursor
import EntSchema.Yaml.Token

/-!
# Block scalars

A block scalar is a header and indented lines. The header can give the indentation and say what
becomes of the line ends after the last line: by default one of them is kept, a plus sign keeps
all, a minus sign none. Without a given indentation the first line with content sets it. A literal
scalar keeps every line end; a folded one joins neighbouring lines by a space, unless one of them
starts with a blank.
-/

namespace EntSchema.Yaml

/-- What becomes of the line ends after the last line. -/
inductive Chomping where
  | strip
  | clip
  | keep
  deriving DecidableEq, Repr, Inhabited

/-- The chomping that a sign in the header asks for. -/
def chomping? : Char → Option Chomping
  | '+' => some .keep
  | '-' => some .strip
  | _ => none

/-- A chomping sign at a place, or the default. -/
def readChomping (c : Cursor) : Chomping × Cursor :=
  match c.rest.head?.bind chomping? with
  | some chomping => (chomping, c.skip 1)
  | none => (.clip, c)

/-- An indentation at a place, from 1 to 9; 0 when there is none, and absent for the digit 0. -/
def readIncrement (c : Cursor) : Option (Nat × Cursor) :=
  match c.rest.head?.bind (Text.digit? 10) with
  | some 0 => none
  | some n => some (n, c.skip 1)
  | none => some (0, c)

/-- The header of a block scalar: its two parts in either order, and the rest of the line. -/
def readHeader (c : Cursor) : Option (Chomping × Nat × Cursor) := do
  let startsWithSign := (c.rest.head?.bind chomping?).isSome
  let (chomping, increment, c) ←
    if startsWithSign then
      let (chomping, c) := readChomping c
      (readIncrement c).map fun (increment, c) => (chomping, increment, c)
    else
      (readIncrement c).map fun (increment, c) =>
        let (chomping, c) := if increment = 0 then (.clip, c) else readChomping c
        (chomping, increment, c)
  return (chomping, increment, ← c.skipLineRest?)

/-- The line ends in front of a line with content, and the greatest column reached in them. -/
structure Breaks where
  content : List Char := []
  width : Nat := 0

/--
The empty lines at a place, which continue `breaks`. Indentation is skipped up to column `indent`,
or altogether when that is 0, that is, not known; a tab inside it is refused.
-/
def readBreaks (indent : Nat) : (fuel : Nat) → Breaks → Cursor → Option (Breaks × Cursor)
  | 0, breaks, c => some (breaks, c)
  | fuel + 1, breaks, c =>
    let spaces := (c.rest.takeWhile (· == ' ')).length
    let c := c.skip (if indent = 0 then spaces else min spaces (indent - c.column))
    let breaks := { breaks with width := max breaks.width c.column }
    if (indent = 0 ∨ c.column < indent) ∧ c.next (· == '\t') then none
    else if c.next isBreak then
      let (content, below) := c.readBreak
      readBreaks indent fuel { breaks with content := breaks.content ++ content } below
    else some (breaks, c)

/-- Reads empty lines and settles the indentation when it is not known yet: it is at least `least`
and at least 1. -/
def readLeadingBreaks (indent least : Nat) (c : Cursor) : Option (List Char × Nat × Cursor) :=
  (readBreaks indent (c.rest.length + 1) {} c).map fun (breaks, c) =>
    (breaks.content, if indent = 0 then max (max breaks.width least) 1 else indent, c)

/-- The lines of a block scalar that were read so far. -/
structure BlockLines where
  content : List Char := []
  /-- The end of the last line. -/
  last : List Char := []
  /-- The line ends after it. -/
  trailing : List Char := []
  /-- Whether the last line started with a blank. -/
  startedBlank : Bool := false

/-- The content with the line ends between it and a next line. -/
def BlockLines.joined (lines : BlockLines) (folded startsBlank : Bool) : List Char :=
  let joins := folded && lines.last == ['\n'] && !lines.startedBlank && !startsBlank
  lines.content ++
    (if joins then (if lines.trailing.isEmpty then [' '] else []) else lines.last) ++
    lines.trailing

/-- The further lines of a block scalar, all indented to the column `indent`. -/
def readLines (folded : Bool) (indent : Nat) :
    (fuel : Nat) → BlockLines → Cursor → Option (BlockLines × Cursor)
  | 0, lines, c => some (lines, c)
  | fuel + 1, lines, c =>
    if c.column = indent ∧ !c.atEnd then do
      let startsBlank := c.next isBlank
      let (line, c) := c.takeWhile (!isBreak ·)
      let content := lines.joined folded startsBlank ++ line
      let (last, c) := c.readBreak
      let (trailing, _, c) ← readLeadingBreaks indent 0 c
      readLines folded indent fuel { content, last, trailing, startedBlank := startsBlank } c
    else some (lines, c)

/--
The block scalar at a place, which is the place of its indicator. `parent` is the indentation of
the collection around it, if there is one.
-/
def readBlock (folded : Bool) (parent : Option Nat) (c : Cursor) :
    Option (List Char × Cursor) := do
  let (chomping, increment, c) ← readHeader (c.skip 1)
  let given := if increment = 0 then 0 else (parent.getD 0) + increment
  let least := match parent with
    | some n => n + 1
    | none => 0
  let (trailing, indent, c) ← readLeadingBreaks given least c
  let (lines, c) ← readLines folded indent (c.rest.length + 1) { trailing } c
  let tail := match chomping with
    | .strip => []
    | .clip => lines.last
    | .keep => lines.last ++ lines.trailing
  return (lines.content ++ tail, c)

end EntSchema.Yaml
