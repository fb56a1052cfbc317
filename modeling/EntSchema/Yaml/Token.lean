/-!
# Tokens of a YAML text

The parts that a YAML text falls into. Indentation is made explicit: a block collection has a start
and an end, and an implicit key gets a key token in front of it.
-/

namespace EntSchema.Yaml

/-- How a scalar is written. -/
inductive Style where
  | plain
  /-- In single or double quotes. -/
  | quoted
  /-- A block that keeps its line ends. -/
  | literal
  /-- A block that joins its lines. -/
  | folded
  deriving DecidableEq, Repr, Inhabited

/-- A token. -/
inductive Token where
  | streamEnd
  | versionDirective (major minor : Nat)
  | tagDirective (handle start : String)
  | documentStart
  | documentEnd
  | blockSequenceStart
  | blockMappingStart
  | blockEnd
  | flowSequenceStart
  | flowSequenceEnd
  | flowMappingStart
  | flowMappingEnd
  | blockEntry
  | flowEntry
  | key
  | value
  /-- An alias. -/
  | reference (name : String)
  | anchor (name : String)
  | tag (handle suffix : String)
  | scalar (content : String) (style : Style)
  deriving DecidableEq, Repr, Inhabited

end EntSchema.Yaml
