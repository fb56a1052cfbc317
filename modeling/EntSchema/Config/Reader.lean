import EntSchema.Config.Basic
import EntSchema.Ordered.Map
import EntSchema.Ordered.Set
import EntSchema.Yaml.Document
import EntSchema.Yaml.Plain

/-!
# Settings as a YAML document

Every part of the settings has a kind, and the node in its place has to be of that kind.

* A text is any scalar as it is written, whatever it could mean.
* A text that may be left out is absent when nothing, or null, is written without quotes.
* A flag is a truth value without quotes.
* A list or a record may be an empty scalar, which has no items or fields.
* Unknown fields of a record are passed over, and a known one stands once; in a map from names the
  last entry of a name counts.

Aliases are followed wherever a node is looked at, up to a hundred times the number of events in
the document, which keeps nested aliases from multiplying.
-/

namespace EntSchema.Config

open Yaml (Node Style)

/-- A reader of nodes in a document with a given root, which counts down how many aliases it may
still follow. -/
abbrev Read := ReaderT Node (StateT Nat Option)

namespace Read

/-- The node itself, or the one that it is an alias of. -/
def follow (node : Node) : Read Node := do
  match node with
  | .reference number =>
    match ← get with
    | 0 => failure
    | left + 1 =>
      set left
      match (← read).find? number with
      | some target => return target
      | none => failure
  | _ => return node

/-- Runs a reader on a whole document. -/
def run? {α : Type} (reader : Node → Read α) (root : Node) : Option α :=
  (((reader root).run root).run (100 * root.eventCount)).map (·.1)

/-! ## Kinds of nodes -/

/-- The content of a scalar. -/
def text (node : Node) : Read String := do
  match ← follow node with
  | .scalar _ _ content _ => return content
  | _ => failure

/-- The tag of the null value. -/
def nullTag : String := "tag:yaml.org,2002:null"

/-- Whether a node that is no alias stands for nothing. With the tag of the null value nothing
else may be written. -/
def isAbsent : Node → Read Bool
  | .scalar _ tag content .plain =>
    match tag with
    | none => return Yaml.isNull content
    | some tag =>
      if tag = nullTag then
        if content ≠ "" ∧ Yaml.isNull content then return true else failure
      else return false
  | _ => return false

/-- What `read` reads, unless the node stands for nothing. -/
def optional {α : Type} (read : Node → Read α) (node : Node) : Read (Option α) := do
  let node ← follow node
  if ← isAbsent node then return none else some <$> read node

/-- The tag of truth values. -/
def boolTag : String := "tag:yaml.org,2002:bool"

/-- A truth value. -/
def flag (node : Node) : Read Bool := do
  match ← follow node with
  | .scalar _ tag content style =>
    if style = .plain ∨ (style = .literal ∧ tag = some boolTag) then
      match Yaml.bool? content with
      | some value => return value
      | none => failure
    else failure
  | _ => failure

/-- The items of a list. -/
def items (node : Node) : Read (List Node) := do
  match ← follow node with
  | .sequence _ items => return items
  | .scalar _ _ "" .plain => return []
  | _ => failure

/-- The entries of a map. -/
def entries (node : Node) : Read (List (Node × Node)) := do
  match ← follow node with
  | .mapping _ entries => return entries
  | .scalar _ _ "" .plain => return []
  | _ => failure

/-- A list of texts. -/
def texts (node : Node) : Read (List String) := do
  (← items node).mapM text

/-- A map from names, in which the last entry of a name counts. -/
def map {α : Type} (read : Node → Read α) (node : Node) : Read (List (String × α)) := do
  let read ← (← entries node).mapM fun (key, value) => do
    return (← text key, ← read value)
  return Ordered.mapOf read

/-- The known fields among the entries of a record, each of which stands once. -/
def fieldsAmong (known : List String) : List (Node × Node) → Read (List (String × Node))
  | [] => return []
  | (key, value) :: rest => do
    let name ← text key
    let fields ← fieldsAmong known rest
    if !known.contains name then return fields
    if (fields.lookup name).isSome then failure
    return (name, value) :: fields

/-- The known fields of a record. -/
def record (known : List String) (node : Node) : Read (List (String × Node)) := do
  fieldsAmong known (← entries node)

/-- A field of a record that may be missing. -/
def field {α : Type} (fields : List (String × Node)) (name : String) (read : Node → Read α)
    (missing : α) : Read α :=
  match fields.lookup name with
  | some node => read node
  | none => return missing

/-- A field of a record that has to be there. -/
def required {α : Type} (fields : List (String × Node)) (name : String) (read : Node → Read α) :
    Read α :=
  match fields.lookup name with
  | some node => read node
  | none => failure

end Read

/-! ## Matchers -/

/-- The property with a name, of which each has several. -/
def Property.ofName? : String → Option Property
  | "Name" | "name" => some .name
  | "Type" | "type" => some .type
  | "IsPrimary" | "is-primary" => some .isPrimary
  | "IsNotNull" | "is-not-null" => some .isNotNull
  | "IsUnique" | "is-unique" => some .isUnique
  | "ForeignKey" | "foreign-key" => some .foreignKey
  | "Default" | "DefaultType" | "default" => some .default
  | _ => none

/-- The name of a property. -/
def Property.toName : Property → String
  | name => "Name"
  | type => "Type"
  | isPrimary => "IsPrimary"
  | isNotNull => "IsNotNull"
  | isUnique => "IsUnique"
  | foreignKey => "ForeignKey"
  | default => "Default"

/-- The name that a tag of a document's own gives: the tag without its exclamation mark. -/
def localTag? (tag : Option String) : Option String :=
  tag.bind fun tag => match tag.toList with
    | ['!'] => some "!"
    | '!' :: rest => some (.ofList rest)
    | _ => none

/-- A property by its name, which is the scalar itself, or its tag on a scalar that stands for
nothing. -/
def readProperty (node : Node) : Read Property := do
  match ← Read.follow node with
  | .scalar _ tag content style =>
    match localTag? tag with
    | some name =>
      if style = .plain ∧ Yaml.isNull content then (Property.ofName? name).elim failure pure
      else failure
    | none => (Property.ofName? content).elim failure pure
  | _ => failure

/-- The tags of numbers and of the null value, which no expected value has. -/
def foreignTags : List String :=
  ["tag:yaml.org,2002:int", "tag:yaml.org,2002:float", Read.nullTag]

/-- An expected value. Without quotes and tag it is a flag or a text, and no number. -/
def readExpected (node : Node) : Read Expected := do
  match ← Read.follow node with
  | .scalar _ (some tag) content _ =>
    if tag = Read.boolTag then
      match Yaml.bool? content with
      | some value => return .flag value
      | none => failure
    else if foreignTags.contains tag || (localTag? (some tag)).isSome then failure
    else return .text content
  | .scalar _ none content .plain =>
    match Yaml.bool? content with
    | some value => return .flag value
    | none => if Yaml.isNumber content then failure else return .text content
  | .scalar _ none content _ => return .text content
  | _ => failure

/-- A matcher. -/
def readMatcher (node : Node) : Read Matcher := do
  let fields ← Read.record ["prop", "value"] node
  return {
    property := ← Read.required fields "prop" readProperty
    expected := ← Read.field fields "value" (Read.optional readExpected) none }

/-! ## The settings -/

/-- An override. -/
def readOverride (node : Node) : Read Override := do
  let fields ← Read.record ["name", "matchers", "with", "imports"] node
  return {
    name := ← Read.required fields "name" Read.text
    matchers := ← Read.field fields "matchers" (fun n => do (← Read.items n).mapM readMatcher) []
    template := ← Read.required fields "with" Read.text
    imports := ← Read.field fields "imports" Read.texts [] }

/-- A refinement. -/
def readRefinement (node : Node) : Read Refinement := do
  let fields ← Read.record ["field", "imports", "go-type", "schema-type", "default"] node
  let text? (name : String) := Read.field fields name (Read.optional Read.text) none
  return {
    builder := ← text? "field"
    imports := ← Read.field fields "imports" Read.texts []
    goType := ← text? "go-type"
    schemaType := ← text? "schema-type"
    defaultTemplate := ← text? "default" }

/-- The switches. -/
def readSwitches (node : Node) : Read Switches := do
  let fields ← Read.record ["no-default", "immutable-columns"] node
  return {
    noDefault := ← Read.field fields "no-default" Read.flag false
    immutableColumns :=
      Ordered.setOf (← Read.field fields "immutable-columns" Read.texts []) }

/-- All settings. -/
def readConfig (node : Node) : Read Config := do
  let fields ← Read.record
    ["parse-tree", "out-dir", "format", "rule", "type", "define", "overrides"] node
  return {
    parseTree := ← Read.field fields "parse-tree" (Read.optional Read.text) none
    outDir := ← Read.field fields "out-dir" (Read.optional Read.text) none
    format := ← Read.field fields "format" Read.flag false
    switches := ← Read.field fields "rule" readSwitches {}
    builders := ← Read.field fields "type" (Read.map Read.text) []
    refinements := ← Read.field fields "define" (Read.map readRefinement) []
    overrides := ← Read.field fields "overrides"
      (fun n => do (← Read.items n).mapM readOverride) [] }

/-- The settings that a YAML text holds. -/
def ofYaml? (text : String) : Option Config :=
  (Yaml.Node.ofText? text).bind (Read.run? readConfig)

end EntSchema.Config
