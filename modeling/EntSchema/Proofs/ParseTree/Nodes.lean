import EntSchema.Proofs.Json.Field
import EntSchema.Proofs.ParseTree.Steps
import Mathlib.Control.Monad.Basic

/-!
# Parse trees written out

The nodes that a walk reads, written out from their parts: columns, constraints, and the
statements that create tables and indexes. Fields stand in key order, as in any JSON object.

A script that is written out is read back statement by statement (`statements_scriptNode`), so a
tree can be treated as its list of statements.
-/

namespace EntSchema.ParseTree

open Relational

/-- A string node. -/
def stringNode (text : String) : Json := .object [("String", .object [("str", .text text)])]

/-- The relation of a statement. -/
def relationNode (name : String) : Json :=
  .object [("RangeVar", .object [("relname", .text name)])]

/-- The name of a type. -/
def typeNode (name : String) : Json :=
  .object [("TypeName", .object [("names", .array [stringNode name])])]

/-- A constraint of a kind, by the code of the kind, with some more fields. -/
def constraintNode (code : Int) (fields : List (String × Json)) : Json :=
  .object [("Constraint", .object (("contype", .number (.integer code)) :: fields))]

/-- The definition of a column with its constraints. -/
def columnNode (name type : String) (constraints : List Json) : Json :=
  .object [("ColumnDef", .object
    [("colname", .text name), ("constraints", .array constraints), ("typeName", typeNode type)])]

/-- The statement that creates a table. -/
def tableNode (name : String) (elements : List Json) : Json :=
  .object [("CreateStmt", .object
    [("relation", relationNode name), ("tableElts", .array elements)])]

/-- An element of an index that is a column. -/
def indexElement (name : String) : Json := .object [("IndexElem", .object [("name", .text name)])]

/-- An element of an index that is a function of a column. Such an element has no name. -/
def callElement (function column : String) : Json :=
  .object [("IndexElem", .object [("expr", .object [("FuncCall", .object
    [ ("args", .array [.object [("ColumnRef", .object [("fields", .array [stringNode column])])]])
    , ("funcname", .array [stringNode function]) ])])])]

/-- The statement that creates an index over some elements. -/
def indexNode (name : String) (elements : List Json) (unique : Bool) : Json :=
  .object [("IndexStmt", .object
    [("indexParams", .array elements), ("relation", relationNode name),
      ("unique", .bool unique)])]

/-- The element of a tree that holds a statement. -/
def rawNode (statement : Json) : Json := .object [("RawStmt", .object [("stmt", statement)])]

/-- The tree of a list of statements. -/
def scriptNode (script : List Json) : Json :=
  .array (script.map fun statement => .object [("RawStmt", .object [("stmt", statement)])])

theorem steps_relation : Json.steps "relation.RangeVar.relname" =
    ["relation".toList, "RangeVar".toList, "relname".toList] := by decide

/-- A statement is about the relation that it is written out with. -/
theorem relation?_of_get? {statement : Json} {name : String} (hname : name ≠ "")
    (h : statement.get? "relation" = some (relationNode name)) :
    relation? statement = some name := by
  have hpath : "relation.RangeVar.relname" = "relation" ++ "." ++ "RangeVar.relname" := rfl
  have hsteps : Json.steps "RangeVar.relname" = ["RangeVar".toList, "relname".toList] := by decide
  have hrest : Json.follow? ["RangeVar".toList, "relname".toList] (relationNode name) =
      some (.text name) := rfl
  rw [relation?, hpath, Json.nonEmptyText?_append_dot _ h, Json.nonEmptyText?, Json.get?, hsteps,
    hrest]
  simp [Json.text?, hname]

theorem relation?_object {name : String} (hname : name ≠ "") (fields : List (String × Json)) :
    relation? (.object (("relation", relationNode name) :: fields)) = some name :=
  relation?_of_get? hname (Json.get?_object (by decide))

theorem require_rawStmt (statement : Json) :
    require (rawNode statement) "RawStmt.stmt" = .ok statement := by
  have hsteps : Json.steps "RawStmt.stmt" = ["RawStmt".toList, "stmt".toList] := by decide
  rw [require_eq_ok, Json.get?, hsteps]
  rfl

/-- The statements of a tree are those that it is written out from. -/
theorem statements_scriptNode (script : List Json) :
    statements (scriptNode script) = .ok script := by
  show (script.map rawNode).mapM (require · "RawStmt.stmt") = .ok script
  induction script with
  | nil => rfl
  | cons statement rest ih =>
    rw [List.map_cons, List.mapM_cons, require_rawStmt, ih]
    rfl

/-! ## Names that are read back -/

theorem stringNode?_stringNode (text : String) : (stringNode text).stringNode? = some text := by
  have hsteps : Json.steps "String.str" = ["String".toList, "str".toList] := by decide
  rw [Json.stringNode?, Json.get?, hsteps]
  rfl

/-- The keys of a constraint are those that it is written out from. -/
theorem stringsAt_of_map {node : Json} {path : String} {texts : List String}
    (h : node.get? path = some (.array (texts.map stringNode))) : stringsAt node path = texts := by
  rw [stringsAt, h]
  show (texts.map stringNode).filterMap Json.stringNode? = texts
  have hread : Json.stringNode? ∘ stringNode = some := funext stringNode?_stringNode
  rw [List.filterMap_map, hread, List.filterMap_some]

/-- The columns of an index statement are those that it is written out from. -/
theorem indexColumns_of_map {statement : Json} {columns : List String}
    (h : statement.get? "indexParams" = some (.array (columns.map indexElement))) :
    indexColumns statement = columns := by
  have hsteps : Json.steps "IndexElem.name" = ["IndexElem".toList, "name".toList] := by decide
  have hread : (fun element : Json => (element.get? "IndexElem.name").bind Json.text?) ∘
      indexElement = some := by
    funext column
    rw [Function.comp_apply, Json.get?, hsteps]
    rfl
  rw [indexColumns, itemsAt_of_get? h, List.filterMap_map, hread, List.filterMap_some]

/-! ## A script of two tables -/

/--
Users and their posts. The first table has a key of its own, a default under a cast, another one
that is `NULL` under a cast, and a unique column. The second table refers to the first one without
naming a column, and has a key, a constraint and indexes over several columns.
-/
def blogScript : List Json :=
  [ tableNode "users"
      [ columnNode "id" "int8" [constraintNode 5 []]
      , columnNode "email" "text"
          [ constraintNode 1 []
          , constraintNode 2 [("raw_expr", .object [("TypeCast", .object
              [ ("arg", .object [("A_Const", .object [("val", stringNode "none")])])
              , ("typeName", typeNode "citext") ])])] ]
      , columnNode "nick" "text"
          [constraintNode 2 [("raw_expr", .object [("TypeCast", .object
            [ ("arg", .object [("A_Const", .object [("val", .object [("Null", .object [])])])])
            , ("typeName", typeNode "text") ])])]]
      , constraintNode 6 [("keys", .array [stringNode "email"])] ]
  , tableNode "posts"
      [ columnNode "author" "int8" [constraintNode 8 [("pktable", relationNode "users")]]
      , columnNode "slug" "text" []
      , columnNode "title" "text" []
      , constraintNode 5 [("keys", .array [stringNode "author", stringNode "slug"])]
      , constraintNode 6 [("keys", .array [stringNode "slug", stringNode "title"])] ]
  , indexNode "posts" [indexElement "title", indexElement "author"] false
  , indexNode "posts" [indexElement "title", indexElement "slug"] true
  , indexNode "users" [indexElement "nick"] true ]

/-- The tree of `blogScript`. -/
def blogTree : Json := scriptNode blogScript

/-- The tables of `blogTree`. -/
def blogTables : List Table :=
  [ { name := "users"
      columns :=
        [ { name := "id", type := "int8", isPrimary := true, isNotNull := true }
        , { name := "email", type := "text", isNotNull := true, isUnique := true
            default := some (.cast (.literal "String" "\"none\"") "citext") }
        , { name := "nick", type := "text", isUnique := true } ] }
  , { name := "posts"
      columns :=
        [ { name := "author", type := "int8", isPrimary := true, isNotNull := true
            foreignKey := some ⟨"users", "id"⟩ }
        , { name := "slug", type := "text", isPrimary := true, isNotNull := true }
        , { name := "title", type := "text" } ]
      indexes :=
        [ { columns := ["slug", "title"], isUnique := true }
        , { columns := ["title", "slug"], isUnique := true }
        , { columns := ["title", "author"], isUnique := false } ] } ]

theorem tablesOf_blogTree : tablesOf blogTree = .ok blogTables := by
  decide +kernel

end EntSchema.ParseTree
