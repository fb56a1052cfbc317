import EntSchema.Yaml.Lexer
import EntSchema.Yaml.Node

/-!
# From tokens to a document

The grammar of YAML documents over tokens. A text holds one document; a text without any node is an
empty scalar. Where a node is expected and none stands, there is an empty scalar, too, as long as
the tokens around it tell that a node belongs there.

Each reader takes tokens off the front. The readers of nested nodes count down a bound given by the
number of tokens: of two nested calls at least one takes a token.
-/

namespace EntSchema.Yaml

/-- The tokens that are left, and the numbers of the anchors so far. -/
structure Composer where
  tokens : List Token
  anchors : List (String × Nat) := []

/-- A reader of tokens. -/
abbrev Compose := StateT Composer Option

/-- What the tag handles stand for. -/
abbrev Handles := List (String × String)

/-- The handles that every document has. -/
def standardHandles : Handles :=
  [("!", "!"), ("!!", "tag:yaml.org,2002:")]

namespace Compose

/-- The next token. -/
def peek : Compose Token := fun s => s.tokens.head?.map fun token => (token, s)

/-- Takes the next token off. -/
def drop : Compose Unit := fun s => some ((), { s with tokens := s.tokens.drop 1 })

/-- Takes the next token off if it is the given one, and says whether it was. -/
def accept (token : Token) : Compose Bool := do
  if (← peek) = token then
    drop
    return true
  else return false

/-- Takes the given token off. -/
def expect (token : Token) : Compose Unit := do
  if !(← accept token) then failure

/-- The number of the node that a name was last given to. -/
def resolveAlias (name : String) : Compose Node := do
  match (← get).anchors.lookup name with
  | some number => return .reference number
  | none => failure

/-- The number for a node that is given a name: the count of names before. -/
def nameNode (name : String) : Compose Nat := do
  let s ← get
  let number := s.anchors.length
  set { s with anchors := (name, number) :: s.anchors.filter (·.1 ≠ name) }
  return number

/-- The full text of a tag. -/
def resolveTag (handles : Handles) (handle suffix : String) : Compose String := do
  if handle = "" then return suffix
  match handles.lookup handle with
  | some start => return start ++ suffix
  | none => failure

/-- An anchor, if one stands next. -/
def anchor? : Compose (Option String) := do
  match ← peek with
  | .anchor name =>
    drop
    return some name
  | _ => return none

/-- A tag, if one stands next. -/
def tag? : Compose (Option (String × String)) := do
  match ← peek with
  | .tag handle suffix =>
    drop
    return some (handle, suffix)
  | _ => return none

/-- The number and the tag of the next node. An anchor and a tag come in either order. -/
def properties (handles : Handles) : Compose (Option Nat × Option String) := do
  let first ← anchor?
  let tag ← tag?
  let name ← match first, tag with
    | none, some _ => anchor?
    | _, _ => pure first
  let tag ← match tag with
    | some (handle, suffix) => some <$> resolveTag handles handle suffix
    | none => pure none
  let number ← match name with
    | some name => some <$> nameNode name
    | none => pure none
  return (number, tag)

/-- The node that `read` reads, or an empty one in front of some tokens. -/
def nodeUnless (stops : List Token) (read : Compose Node) : Compose Node := do
  if stops.contains (← peek) then return .empty else read

/-- The value of a key: what `read` reads after a value token, and empty without one. -/
def valueOrEmpty (stops : List Token) (read : Compose Node) : Compose Node := do
  if ← accept .value then nodeUnless stops read else return .empty

/-- A node of which only a number or a tag is written. -/
def emptyNode (number : Option Nat) (tag : Option String) : Compose Node :=
  if number.isSome || tag.isSome then return .scalar number tag "" .plain else failure

mutual

/-- The next node. Block collections are allowed where `block` says so, and a block sequence that
is not indented where `indentless` does. -/
def node (handles : Handles) : (fuel : Nat) → (block indentless : Bool) → Compose Node
  | 0, _, _ => failure
  | fuel + 1, block, indentless => do
    if let .reference name ← peek then
      drop
      return ← resolveAlias name
    let (number, tag) ← properties handles
    match ← peek with
    | .scalar content style =>
      drop
      return .scalar number (tag.filter (· ≠ "!")) content style
    | .blockEntry =>
      if indentless then return .sequence number (← indentlessItems handles fuel)
      else emptyNode number tag
    | .flowSequenceStart =>
      drop
      return .sequence number (← flowItems handles fuel true)
    | .flowMappingStart =>
      drop
      return .mapping number (← flowEntries handles fuel true)
    | .blockSequenceStart =>
      if block then
        drop
        return .sequence number (← blockItems handles fuel)
      else emptyNode number tag
    | .blockMappingStart =>
      if block then
        drop
        return .mapping number (← blockEntries handles fuel)
      else emptyNode number tag
    | _ => emptyNode number tag

/-- The items of a block sequence. -/
def blockItems (handles : Handles) : (fuel : Nat) → Compose (List Node)
  | 0 => failure
  | fuel + 1 => do
    if ← accept .blockEnd then return []
    expect .blockEntry
    let item ← nodeUnless [.blockEntry, .blockEnd] (node handles fuel true false)
    return item :: (← blockItems handles fuel)

/-- The items of a block sequence that is not indented. -/
def indentlessItems (handles : Handles) : (fuel : Nat) → Compose (List Node)
  | 0 => failure
  | fuel + 1 => do
    if !(← accept .blockEntry) then return []
    let item ← nodeUnless [.blockEntry, .key, .value, .blockEnd] (node handles fuel true false)
    return item :: (← indentlessItems handles fuel)

/-- The entries of a block mapping. -/
def blockEntries (handles : Handles) : (fuel : Nat) → Compose (List (Node × Node))
  | 0 => failure
  | fuel + 1 => do
    if ← accept .blockEnd then return []
    expect .key
    let stops := [.key, .value, .blockEnd]
    let key ← nodeUnless stops (node handles fuel true true)
    let value ← valueOrEmpty stops (node handles fuel true true)
    return (key, value) :: (← blockEntries handles fuel)

/-- The items of a sequence in brackets. A key token makes an item a mapping of one entry; if no
node follows it there, the token that stands in its place is passed over. -/
def flowItems (handles : Handles) : (fuel : Nat) → (first : Bool) → Compose (List Node)
  | 0, _ => failure
  | fuel + 1, first => do
    if ← accept .flowSequenceEnd then return []
    if !first then expect .flowEntry
    if ← accept .flowSequenceEnd then return []
    let item ←
      if ← accept .key then
        let key ←
          if [Token.value, .flowEntry, .flowSequenceEnd].contains (← peek) then
            drop
            pure Node.empty
          else node handles fuel false false
        let value ←
          valueOrEmpty [.flowEntry, .flowSequenceEnd] (node handles fuel false false)
        pure (Node.mapping none [(key, value)])
      else node handles fuel false false
    return item :: (← flowItems handles fuel false)

/-- The entries of a mapping in brackets. A node without a key token is a key without a value. -/
def flowEntries (handles : Handles) :
    (fuel : Nat) → (first : Bool) → Compose (List (Node × Node))
  | 0, _ => failure
  | fuel + 1, first => do
    if ← accept .flowMappingEnd then return []
    if !first then expect .flowEntry
    if ← accept .flowMappingEnd then return []
    let entry ←
      if ← accept .key then
        let key ← nodeUnless [.value, .flowEntry, .flowMappingEnd] (node handles fuel false false)
        let value ←
          valueOrEmpty [.flowEntry, .flowMappingEnd] (node handles fuel false false)
        pure (key, value)
      else
        let key ← node handles fuel false false
        pure (key, Node.empty)
    return entry :: (← flowEntries handles fuel false)

end

/-! ## Documents -/

/-- The directives in front of a document: at most one version, which is 1.1 or 1.2, and handles,
each at most once. -/
def directives : (fuel : Nat) → (versioned : Bool) → Handles → Compose Handles
  | 0, _, _ => failure
  | fuel + 1, versioned, handles => do
    match ← peek with
    | .versionDirective major minor =>
      if versioned || major ≠ 1 || !(minor = 1 || minor = 2) then failure
      drop
      directives fuel true handles
    | .tagDirective handle start =>
      if (handles.lookup handle).isSome then failure
      drop
      directives fuel versioned ((handle, start) :: handles)
    | _ => return handles

/-- Takes the markers of the end of a document off. -/
def dropEnds : (fuel : Nat) → Compose Unit
  | 0 => return
  | fuel + 1 => do
    if ← accept .documentEnd then dropEnds fuel

/-- The content of a document with a start marker, which may be empty. -/
def explicitContent (handles : Handles) (fuel : Nat) : Compose Node := do
  match ← peek with
  | .versionDirective _ _ => return .empty
  | .tagDirective _ _ => return .empty
  | .documentStart => return .empty
  | .documentEnd => return .empty
  | .streamEnd => return .empty
  | _ => node handles fuel true false

/-- The one document of a text. Directives need a start marker after them. -/
def document (fuel : Nat) : Compose Node := do
  let root ← match ← peek with
    | .streamEnd => pure Node.empty
    | .versionDirective _ _ | .tagDirective _ _ | .documentStart => do
      let handles ← directives fuel false []
      expect .documentStart
      explicitContent (handles ++ standardHandles) fuel
    | _ => node standardHandles fuel true false
  dropEnds fuel
  expect .streamEnd
  return root

end Compose

/-- The root of the document that a text holds. -/
def Node.ofText? (text : String) : Option Node := do
  let tokens ← tokens? text
  let (root, _) ← (Compose.document (2 * tokens.length + 2)).run { tokens }
  return root

end EntSchema.Yaml
