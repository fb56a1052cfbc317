import EntSchema.Yaml.Token

/-!
# The nodes of a YAML document

A document is a tree of scalars, sequences and mappings. An anchor numbers a node, and an alias
stands for the node of a number. A number can be given twice: when a name is anchored again, the
count of names does not grow, and the next new name takes the same number. The later node in the
document is meant then, also by aliases before it.
-/

namespace EntSchema.Yaml

/-- A node. -/
inductive Node where
  | scalar (anchor : Option Nat) (tag : Option String) (content : String) (style : Style)
  | sequence (anchor : Option Nat) (items : List Node)
  | mapping (anchor : Option Nat) (entries : List (Node × Node))
  /-- An alias: the node that was given a number. -/
  | reference (number : Nat)
  deriving Repr, Inhabited

namespace Node

/-- A scalar of which nothing is written. -/
def empty : Node := scalar none none "" .plain

/-- The number of a node, if it has one. -/
def anchor? : Node → Option Nat
  | scalar anchor _ _ _ => anchor
  | sequence anchor _ => anchor
  | mapping anchor _ => anchor
  | reference _ => none

mutual

/-- The last node with a number among a node and the nodes inside it, in the order in which they
start. -/
def find? (number : Nat) (node : Node) : Option Node :=
  let inside := match node with
    | sequence _ items => findInItems? number items
    | mapping _ entries => findInEntries? number entries
    | _ => none
  inside.or (if node.anchor? = some number then some node else none)

/-- The last node with a number among some items. -/
def findInItems? (number : Nat) : List Node → Option Node
  | [] => none
  | item :: rest => (findInItems? number rest).or (find? number item)

/-- The last node with a number among some entries. -/
def findInEntries? (number : Nat) : List (Node × Node) → Option Node
  | [] => none
  | (key, value) :: rest =>
    (findInEntries? number rest).or ((find? number value).or (find? number key))

end

mutual

/-- How many events make up a node: one for a scalar or an alias, and a start and an end for a
collection. -/
def eventCount : Node → Nat
  | sequence _ items => 2 + itemEvents items
  | mapping _ entries => 2 + entryEvents entries
  | _ => 1

/-- The events of some items. -/
def itemEvents : List Node → Nat
  | [] => 0
  | item :: rest => eventCount item + itemEvents rest

/-- The events of some entries. -/
def entryEvents : List (Node × Node) → Nat
  | [] => 0
  | (key, value) :: rest => eventCount key + eventCount value + entryEvents rest

end

end Node

end EntSchema.Yaml
