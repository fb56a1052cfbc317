import EntSchema.Relational.Default

/-!
# Tables, columns and indexes

The relational model that a script of statements declares. A table keeps its columns in the order
of their declaration. Names are looked up from the front, so of two columns with one name the first
is meant.
-/

namespace EntSchema.Relational

/-- The column that a foreign key points at. Of a key of several columns only the first pair of
columns is kept. -/
structure ForeignKey where
  table : String
  column : String
  deriving DecidableEq, Repr, Inhabited

/-- A column and the constraints on it. -/
structure Column where
  name : String
  /-- The last part of the name of its type. -/
  type : String
  isPrimary : Bool := false
  isNotNull : Bool := false
  /-- A unique constraint or index covers this column alone. -/
  isUnique : Bool := false
  default : Option DefaultValue := none
  foreignKey : Option ForeignKey := none
  deriving DecidableEq, Repr, Inhabited

/-- An index over several columns. -/
structure Index where
  columns : List String
  isUnique : Bool
  deriving DecidableEq, Repr, Inhabited

/-- A table with its columns and with its indexes over several columns. -/
structure Table where
  name : String
  columns : List Column := []
  indexes : List Index := []
  deriving DecidableEq, Repr, Inhabited

namespace Column

/-- The column as a part of the primary key, which is never null. -/
def markPrimary (column : Column) : Column :=
  { column with isPrimary := true, isNotNull := true }

/-- The column as unique on its own, if it is so already or `unique` holds. -/
def markUnique (unique : Bool) (column : Column) : Column :=
  { column with isUnique := column.isUnique || unique }

end Column

/-! ## Lists of columns by name -/

/-- The columns with the first one of that name changed; absent when there is none. -/
def changeNamed? (name : String) (change : Column → Column) :
    List Column → Option (List Column)
  | [] => none
  | column :: rest =>
    if column.name = name then some (change column :: rest)
    else (changeNamed? name change rest).map (column :: ·)

namespace Table

/-- The first column of a name. -/
def column? (table : Table) (name : String) : Option Column :=
  table.columns.find? (·.name == name)

/-- The table with the first column of a name changed; absent when it has none. -/
def changeColumn? (table : Table) (name : String) (change : Column → Column) : Option Table :=
  (changeNamed? name change table.columns).map fun columns => { table with columns }

/-- The table with one more column, at the end. -/
def addColumn (table : Table) (column : Column) : Table :=
  { table with columns := table.columns ++ [column] }

/-- The table with one more index, at the end. -/
def addIndex (table : Table) (index : Index) : Table :=
  { table with indexes := table.indexes ++ [index] }

end Table

/-- The indexes with the unique ones in front, and else in their order. -/
def uniqueFirst (indexes : List Index) : List Index :=
  indexes.filter (·.isUnique) ++ indexes.filter (!·.isUnique)

/-- The table with its unique indexes in front. -/
def Table.finalize (table : Table) : Table :=
  { table with indexes := uniqueFirst table.indexes }

end EntSchema.Relational
