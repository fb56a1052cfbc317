import EntSchema.Json.Reader
import EntSchema.ParseTree.Constraint
import EntSchema.ParseTree.DefaultExpr
import EntSchema.Relational.Table

/-!
# Scripts: from statements to tables

A script is an array of statements, applied in order in a single pass. `CREATE TABLE` adds a table,
`CREATE INDEX` changes one that is there, and every other statement is skipped. A constraint or an
index may only name tables and columns declared before it.

Two phases can fail. First every element of the array must hold a statement; only then is the first
statement applied. The pass itself is a fold that stops at the first statement it cannot apply.
-/

namespace EntSchema.ParseTree

open Relational

/-! ## Foreign keys -/

/-- The column that a foreign key points at when it names none and no primary key is known. -/
def implicitKey : String := "id"

/-- The first primary column of the tables with a given name. -/
def primaryColumn? (name : String) (tables : List Table) : Option Column :=
  ((tables.filter (·.name = name)).flatMap (·.columns)).find? (·.isPrimary)

/--
The target of a foreign key. Without a list of columns it is the primary key of the table it
refers to, as far as that is known: first in the table that is being created, then in the tables
created before.
-/
def foreignKeyTarget (tables : List Table) (current : Table) (constraint : Json) :
    Except ParseError ForeignKey := do
  let table ← requireText constraint "pktable.RangeVar.relname"
  match constraint.get? "pk_attrs" with
  | some columns =>
    match columns.nonEmptyText? "0.String.str" with
    | some column => return { table, column }
    | none => .error (.missingField "pk_attrs.0.String.str")
  | none =>
    match primaryColumn? table (current :: tables) with
    | some column => return { table, column := column.name }
    | none => return { table, column := implicitKey }

/-! ## Columns -/

/-- A column with one of its own constraints applied. `DEFAULT NULL` says nothing. -/
def applyColumnConstraint (tables : List Table) (current : Table) (column : Column)
    (element : Json) : Except ParseError Column := do
  let constraint ← require element "Constraint"
  match ConstraintKind.ofNode? constraint with
  | none => return column
  | some .notNull => return { column with isNotNull := true }
  | some .default =>
    let (tag, body) ← requireTagged constraint "raw_expr"
    let value ← resolveDefault tag body
    return if value.isNull then column else { column with default := some value }
  | some .primaryKey => return column.markPrimary
  | some .unique => return column.markUnique true
  | some .foreignKey =>
    let target ← foreignKeyTarget tables current constraint
    return { column with foreignKey := some target }

/-- The column that a definition declares. -/
def readColumn (tables : List Table) (current : Table) (definition : Json) :
    Except ParseError Column := do
  let name ← requireText definition "colname"
  let type ← typeName (← require definition "typeName")
  (itemsAt definition "constraints").foldlM (applyColumnConstraint tables current) { name, type }

/-! ## Constraints and indexes on named columns -/

/-- A table with the first column of a name changed, which must be there. -/
def changeColumn (table : Table) (name : String) (purpose : Purpose) (change : Column → Column) :
    Except ParseError Table :=
  match table.changeColumn? name change with
  | some changed => .ok changed
  | none => .error (.unknownColumn table.name name purpose)

/-- A table with a constraint or index over some columns: a single column is marked itself, several
columns make an index. -/
def coverColumns (table : Table) (columns : List String) (isUnique : Bool) (purpose : Purpose) :
    Except ParseError Table :=
  match columns with
  | [] => .ok table
  | [column] => changeColumn table column purpose (·.markUnique isUnique)
  | _ => .ok (table.addIndex { columns, isUnique })

/-- A table with one of the constraints of its statement applied. -/
def applyTableConstraint (tables : List Table) (table : Table) (constraint : Json) :
    Except ParseError Table :=
  match ConstraintKind.ofNode? constraint with
  | some .primaryKey =>
    (stringsAt constraint "keys").foldlM
      (fun table key => changeColumn table key .setPrimaryKey (·.markPrimary)) table
  | some .foreignKey => do
    let target ← foreignKeyTarget tables table constraint
    let column ← requireText constraint "fk_attrs.0.String.str"
    changeColumn table column .setForeignKey ({ · with foreignKey := some target })
  | some .unique => coverColumns table (stringsAt constraint "keys") true .setUniqueConstraint
  | some .notNull => .ok table
  | some .default => .ok table
  | none => .ok table

/-! ## Statements -/

/-- A table with one element of its statement applied: a column, a constraint, or neither. -/
def applyElement (tables : List Table) (table : Table) (element : Json) :
    Except ParseError Table :=
  match element.tagged? with
  | some ("ColumnDef", body) => do
    let column ← readColumn tables table body
    return table.addColumn column
  | some ("Constraint", body) => applyTableConstraint tables table body
  | _ => .ok table

/-- The table that a statement creates. -/
def createTable (tables : List Table) (statement : Json) : Except ParseError Table := do
  let name ← relationName statement
  (itemsAt statement "tableElts").foldlM (applyElement tables) { name }

/-- The columns that an index statement names. Elements without a name are left out. -/
def indexColumns (statement : Json) : List String :=
  (itemsAt statement "indexParams").filterMap fun element =>
    (element.get? "IndexElem.name").bind Json.text?

/-- Whether an index statement is about a unique index. -/
def isUniqueIndex (statement : Json) : Bool :=
  match statement.get? "unique" with
  | some flag => flag.isTrue
  | none => false

/-- A table with the index of a statement, which must name a column. -/
def addStatementIndex (statement : Json) (table : Table) : Except ParseError Table :=
  let columns := indexColumns statement
  if columns.isEmpty then .error (.missingField "indexParams.IndexElem.name")
  else coverColumns table columns (isUniqueIndex statement) .createIndex

/-- The tables with the first one of a name changed, which must be there. -/
def changeTable (name : String) (change : Table → Except ParseError Table) :
    List Table → Except ParseError (List Table)
  | [] => .error (.unknownTable name .createIndex)
  | table :: rest =>
    if table.name = name then do
      return (← change table) :: rest
    else do
      return table :: (← changeTable name change rest)

/-- The tables with the index of a statement. -/
def createIndex (tables : List Table) (statement : Json) : Except ParseError (List Table) := do
  let name ← relationName statement
  changeTable name (addStatementIndex statement) tables

/-- The tables after one more statement. -/
def applyStatement (tables : List Table) (statement : Json) : Except ParseError (List Table) :=
  match statement.tagged? with
  | some ("CreateStmt", body) => do
    let table ← createTable tables body
    return tables ++ [table]
  | some ("IndexStmt", body) => createIndex tables body
  | _ => .ok tables

/-! ## Scripts -/

/-- The statements of a parse tree, which is an array of them. -/
def statements : Json → Except ParseError (List Json)
  | .array elements => elements.mapM (require · "RawStmt.stmt")
  | _ => .error (.missingField "RawStmt")

/-- The tables that a parse tree declares, each with its unique indexes in front. -/
def tablesOf (tree : Json) : Except ParseError (List Table) := do
  let tables ← (← statements tree).foldlM applyStatement []
  return tables.map (·.finalize)

/-- The tables that the text of a parse tree declares. -/
def tablesOfText (text : String) : Except ParseError (List Table) :=
  match Json.parse? text with
  | some tree => tablesOf tree
  | none => .error .invalidJson

end EntSchema.ParseTree
