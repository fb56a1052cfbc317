import EntSchema.Ordered.Set
import EntSchema.Schema.File
import EntSchema.Text.Lines

/-!
# The source text of a schema file

A schema file is written line by line: the package, the imports, the type of the entity, and one
method for each kind of declaration. Fields always have their method; annotations and indexes have
one when there are any.

In a method every declaration starts at two tabs, its further lines at three, and a comma follows
its last line.
-/

namespace EntSchema.Schema

/-! ## Imports -/

/-- An import as it is written: in quotes, unless quotes are part of it already. -/
def importText (path : String) : String :=
  if path.toList.contains '"' then path else inQuotes path

/-- The imports that every file with such declarations has. -/
def builtinImports (file : SchemaFile) : List String :=
  ["entgo.io/ent"] ++
    (if file.fields.isEmpty && file.annotations.isEmpty then []
      else ["entgo.io/ent/schema/field"]) ++
    (if file.annotations.isEmpty then [] else ["entgo.io/ent/schema"]) ++
    (if file.indexes.isEmpty then [] else ["entgo.io/ent/schema/index"])

/-- The imports of a file as they are written: a set, in order. -/
def importTexts (file : SchemaFile) : List String :=
  Ordered.setOf ((builtinImports file ++ file.imports).map importText)

/-- The lines of the import block. -/
def importLines (file : SchemaFile) : List String :=
  ["import ("] ++ (importTexts file).map ("\t" ++ ·) ++ [")"]

/-! ## Methods -/

/-- The lines of a declaration with their indentation. -/
def indentLines : List (List Char) → List (List Char)
  | [] => []
  | first :: rest => ('\t' :: '\t' :: first) :: rest.map fun line => '\t' :: '\t' :: '\t' :: line

/-- Lines with a comma after the last one. -/
def closeLines : List (List Char) → List (List Char)
  | [] => []
  | [last] => [last ++ [',']]
  | line :: rest => line :: closeLines rest

/-- The lines of a declaration inside a method. -/
def itemLines (item : String) : List String :=
  (closeLines (indentLines (Text.lines item.toList))).map String.ofList

/-- The lines of the method that lists some declarations. -/
def methodLines (entity method itemType : String) (items : List String) : List String :=
  ["",
    "// " ++ method ++ " of the " ++ entity ++ ".",
    "func (" ++ entity ++ ") " ++ method ++ "() []" ++ itemType ++ " \x7b",
    "\treturn []" ++ itemType ++ "\x7b"] ++
  (items.filter (· ≠ "")).flatMap itemLines ++
  ["\t\x7d", "\x7d"]

/-- The lines of the method that lists some declarations, when there are any. -/
def methodLinesIfAny (entity method itemType : String) (items : List String) : List String :=
  if items.isEmpty then [] else methodLines entity method itemType items

/-! ## Files -/

/-- The lines that declare the type of the entity. -/
def typeLines (entity : String) : List String :=
  ["",
    "// " ++ entity ++ " holds the schema definition for the " ++ entity ++ " entity.",
    "type " ++ entity ++ " struct \x7b",
    "\tent.Schema",
    "\x7d"]

/-- The lines of a schema file. -/
def fileLines (file : SchemaFile) : List String :=
  ["package schema", ""] ++ importLines file ++ typeLines file.entity ++
    methodLinesIfAny file.entity "Annotations" "schema.Annotation" file.annotations ++
    methodLines file.entity "Fields" "ent.Field" file.fields ++
    methodLinesIfAny file.entity "Indexes" "ent.Index" file.indexes

/-- Lines as a text, each with its line end. -/
def unlines (lines : List String) : String :=
  String.join (lines.map (· ++ "\n"))

end EntSchema.Schema

namespace EntSchema

/-- The source text of a schema file. -/
def SchemaFile.render (file : SchemaFile) : String :=
  Schema.unlines (Schema.fileLines file)

end EntSchema
