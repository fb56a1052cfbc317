import EntSchema.Yaml.Scalar.Fold

/-!
# Plain scalars

A plain scalar is a row of words without quotes. A word ends at a gap and at a colon before a gap,
and inside brackets also at a bracket or a comma. The scalar ends where a comment or a marker of a
document stands in place of a word, and outside brackets at a line that is not indented.
-/

namespace EntSchema.Yaml

/-- The characters that end a word inside brackets. -/
def flowIndicators : List Char := [',', '[', ']', '\x7b', '\x7d']

/-- The characters that must not follow a colon inside brackets. -/
def colonEnemies : List Char := '?' :: flowIndicators

/-- The next word of a plain scalar. Inside brackets a colon right before a bracket, a comma or a
question mark is refused. -/
def plainWord (inFlow : Bool) : List Char → Option (List Char)
  | [] => some []
  | x :: rest =>
    if isGap x then some []
    else if x == ':' && inFlow && (rest.head?.map colonEnemies.contains).getD false then none
    else if x == ':' && (rest.head?.map isGap).getD true then some []
    else if inFlow && flowIndicators.contains x then some []
    else (plainWord inFlow rest).map (x :: ·)

/-- A plain scalar that was read: its content, the place after it, and whether a line has ended
since its last word. -/
structure PlainScalar where
  content : List Char
  after : Cursor
  endsLine : Bool

/-- The rest of a plain scalar after the words `seen` and a gap. -/
def readPlainFrom (inFlow : Bool) (indent : Nat) :
    (fuel : Nat) → (seen : List Char) → Gap → Cursor → Option PlainScalar
  | 0, _, _, _ => none
  | fuel + 1, seen, gap, c => do
    if c.atDocumentMarker || c.next (· == '#') then return ⟨seen, c, gap.isBroken⟩
    let word ← plainWord inFlow c.rest
    if word.isEmpty then return ⟨seen, c, gap.isBroken⟩
    let seen := seen ++ gap.content ++ word
    let c := c.skip word.length
    if !c.next isGap then return ⟨seen, c, false⟩
    let (gap, c) ← Gap.read indent c.rest.length {} c
    if !inFlow && c.column < indent then return ⟨seen, c, gap.isBroken⟩
    readPlainFrom inFlow indent fuel seen gap c

/-- The plain scalar at a place, whose further lines start at column `indent` or later. -/
def readPlain (inFlow : Bool) (indent : Nat) (c : Cursor) : Option PlainScalar :=
  readPlainFrom inFlow indent (c.rest.length + 1) [] {} c

end EntSchema.Yaml
