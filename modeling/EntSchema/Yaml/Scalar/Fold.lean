import EntSchema.Yaml.Cursor

/-!
# Gaps inside scalars

Blanks and line ends between two words of a plain or quoted scalar. Blanks on one line are content.
A single line end becomes a space; of several the first is dropped and the others stay. A gap with
a line end loses its blanks.
-/

namespace EntSchema.Yaml

/-- The blanks and line ends between two words. -/
structure Gap where
  /-- The blanks of a gap on one line. -/
  blanks : List Char := []
  /-- Whether there is a line end. -/
  isBroken : Bool := false
  /-- The first line end. -/
  first : List Char := []
  /-- The other line ends. -/
  others : List Char := []
  deriving Repr, Inhabited

namespace Gap

/-- A gap as the content between two words. -/
def content (gap : Gap) : List Char :=
  if gap.isBroken then
    if gap.first = ['\n'] then (if gap.others.isEmpty then [' '] else gap.others)
    else gap.first ++ gap.others
  else gap.blanks

/--
The gap at a place, which continues `gap`, and the place after it. A tab that stands in a further
line to the left of column `indent` is refused.
-/
def read (indent : Nat) : (fuel : Nat) → Gap → Cursor → Option (Gap × Cursor)
  | 0, gap, c => some (gap, c)
  | fuel + 1, gap, c =>
    match c.rest with
    | [] => some (gap, c)
    | x :: _ =>
      if isBlank x then
        if gap.isBroken then
          if x == '\t' && c.column < indent then none else read indent fuel gap (c.skip 1)
        else read indent fuel { gap with blanks := gap.blanks ++ [x] } (c.skip 1)
      else if isBreak x then
        let (content, below) := c.readBreak
        if gap.isBroken then
          read indent fuel { gap with others := gap.others ++ content } below
        else read indent fuel { isBroken := true, first := content } below
      else some (gap, c)

end Gap

end EntSchema.Yaml
