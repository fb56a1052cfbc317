import EntSchema.Naming.Camel
import EntSchema.Naming.Plural
import EntSchema.Ordered.Set
import EntSchema.Schema.Field

/-!
# Schema files

What is known of a schema file before it is written as source text: its name, the entity that it
declares, and the declarations. A table makes one schema file, column by column; the first column
without a declaration stops it. The imports are the union of what the columns need.
-/

namespace EntSchema

/-- The content of a schema file. -/
structure SchemaFile where
  /-- The name of the file without its ending: the singular of the table's name. -/
  stem : String := ""
  /-- The imports that the declarations need. -/
  imports : List String := []
  /-- The name of the entity. -/
  entity : String := ""
  annotations : List String := []
  /-- The field declarations, in the order of the columns. -/
  fields : List String := []
  indexes : List String := []
  deriving DecidableEq, Repr, Inhabited

namespace Schema

open Relational Config

/-- Texts in quotes, with commas between them. -/
def quotedList (names : List String) : String :=
  ", ".intercalate (names.map inQuotes)

/-- The names of the columns that are primary and foreign keys at once. -/
def linkColumns (table : Table) : List String :=
  (table.columns.filter fun c => c.isPrimary && c.foreignKey.isSome).map (·.name)

/-- The annotations of a table: a composite key, when several columns are primary and foreign keys
at once. -/
def annotationsOf (table : Table) : List String :=
  let keys := linkColumns table
  if 1 < keys.length then ["field.ID(" ++ quotedList keys ++ ")"] else []

/-- The declaration of an index. -/
def indexText (index : Index) : String :=
  let fields := "index.Fields(" ++ quotedList index.columns ++ ")"
  if index.isUnique then fields ++ linkSeparator ++ Link.unique.text else fields

/-- The text of a declared column; none for a column that is left out. -/
def Outcome.text? : Outcome → Option String
  | .skipped => none
  | .declared links => some (chainText links)

/-- The imports of all columns together. -/
def importsOf (results : List FieldResult) : List String :=
  results.foldl (fun imports result => Ordered.insertAll imports result.imports) []

/-- The schema file of a table. -/
def fileOf (config : Config) (table : Table) : Except FieldError SchemaFile := do
  let results := table.columns.map (fieldOf config table.name)
  let outcomes ← results.mapM (·.outcome)
  let singular := Naming.singularize table.name
  return {
    stem := singular
    imports := importsOf results
    entity := Naming.upperCamel singular
    annotations := annotationsOf table
    fields := outcomes.filterMap (·.text?)
    indexes := table.indexes.map indexText }

/-- The schema files of some tables, each on its own. -/
def filesOf (config : Config) (tables : List Table) : List (Except FieldError SchemaFile) :=
  tables.map (fileOf config)

end Schema

end EntSchema
