import EntSchema.Json.Path
import EntSchema.ParseTree.Error

/-!
# Nodes of a parse tree

What a statement must contain. A node is a JSON value; each function here reads one part of it and
fails with the path of that part when it is absent or empty.
-/

namespace EntSchema.ParseTree

/-- The value that a path leads to. -/
def require (node : Json) (path : String) : Except ParseError Json :=
  match node.get? path with
  | some value => .ok value
  | none => .error (.missingField path)

/-- The text that a path leads to, which must not be empty. -/
def requireText (node : Json) (path : String) : Except ParseError String :=
  match node.nonEmptyText? path with
  | some text => .ok text
  | none => .error (.missingField path)

/-- The tag and the body of what a path leads to. -/
def requireTagged (node : Json) (path : String) : Except ParseError (String × Json) :=
  match (node.get? path).bind Json.tagged? with
  | some tagged => .ok tagged
  | none => .error (.missingField path)

/-- The last part of a qualified name: the last item that a path leads to, a string node that is
not empty. -/
def requireLastName (node : Json) (path : String) : Except ParseError String :=
  let last? := (node.get? path).bind fun names => names.items.getLast?.bind Json.stringNode?
  match last?.filter (· ≠ "") with
  | some name => .ok name
  | none => .error (.missingField path)

/-- The name of the relation that a statement is about. -/
def relationName (statement : Json) : Except ParseError String :=
  requireText statement "relation.RangeVar.relname"

/-- The last part of the name of a type. -/
def typeName (type : Json) : Except ParseError String :=
  requireLastName type "TypeName.names"

/-- The items that a path leads to; none when it leads nowhere. -/
def itemsAt (node : Json) (path : String) : List Json :=
  match node.get? path with
  | some value => value.items
  | none => []

/-- The contents of the string nodes that a path leads to; none when it leads nowhere. -/
def stringsAt (node : Json) (path : String) : List String :=
  match node.get? path with
  | some value => value.stringNodes
  | none => []

end EntSchema.ParseTree
