import EntSchema.Proofs.Relational.Lookup
import EntSchema.Proofs.Split

/-!
# What is settled about a table

Once a table has been created, later statements change two things in it: they mark columns as
unique, and they add indexes. The rest is settled, and it is all that a later statement can see of
the table: its name, the names of its columns, its primary columns and its foreign keys do not
change any more. `Table.settled` is the table reduced to that.

A view of a table that is the same for the settled table can be read off at any time after the
table was created. This file says so for the views that foreign keys need.
-/

namespace EntSchema.Relational

open Split

/-- The column without its unique mark, the only mark that an index may set later. -/
def Column.settled (column : Column) : Column :=
  { column with isUnique := false }

namespace Table

/-- The name of a table and its columns with all that is said of them except unique marks. -/
def settled (table : Table) : Table :=
  { name := table.name, columns := table.columns.map (·.settled) }

/-- The name of the first primary column. -/
def keyName? (table : Table) : Option String :=
  (table.columns.find? (·.isPrimary)).map (·.name)

/-- The foreign key of the column at a place. -/
def foreignKeyAt? (table : Table) (place : Nat) : Option ForeignKey :=
  table.columns[place]?.bind (·.foreignKey)

/-! ## Views of a settled table -/

section Views

variable (table : Table)

@[simp] theorem name_settled : table.settled.name = table.name := rfl

@[simp] theorem keyName?_settled : table.settled.keyName? = table.keyName? := by
  rw [keyName?, keyName?, settled, List.find?_map, Option.map_map]
  rfl

@[simp] theorem foreignKeyAt?_settled (place : Nat) :
    table.settled.foreignKeyAt? place = table.foreignKeyAt? place := by
  rw [foreignKeyAt?, foreignKeyAt?, settled, List.getElem?_map, Option.bind_map]
  rfl

theorem name_eq_of_settled {table other : Table} (h : table.settled = other.settled) :
    table.name = other.name := by
  simpa using congrArg Table.name h

end Views

/-! ## Changes that leave what is settled -/

section Changes

variable {table changed : Table} {name : String}

@[simp] theorem settled_finalize (table : Table) : table.finalize.settled = table.settled := rfl

theorem settled_addIndex (table : Table) (index : Index) :
    (table.addIndex index).settled = table.settled := rfl

theorem settled_markUnique {unique : Bool}
    (h : table.changeColumn? name (·.markUnique unique) = some changed) :
    changed.settled = table.settled := by
  obtain ⟨before, column, after, hsplit, -, -, rfl⟩ := changeColumn?_eq_some h
  simp [settled, hsplit, Column.settled, Column.markUnique]

/-- Tables that differ in one table, and there in nothing that is settled. -/
theorem map_settled_of_split {front back : List Table} (h : changed.settled = table.settled) :
    (front ++ changed :: back).map (·.settled) = (front ++ table :: back).map (·.settled) := by
  rw [List.map_append, List.map_append, List.map_cons, List.map_cons, h]

/-- A change that keeps names and primary marks keeps the first primary column. -/
theorem keyName?_of_changeColumn? {change : Column → Column}
    (hname : ∀ column, (change column).name = column.name)
    (hprimary : ∀ column, (change column).isPrimary = column.isPrimary)
    (h : table.changeColumn? name change = some changed) : changed.keyName? = table.keyName? := by
  obtain ⟨before, column, after, hsplit, -, -, rfl⟩ := changeColumn?_eq_some h
  simp only [keyName?, hsplit, List.find?_append, List.find?_cons, hprimary]
  cases before.find? (·.isPrimary) with
  | some earlier => rfl
  | none => cases column.isPrimary <;> simp [hname]

/-- **A change of a column is felt at the place of its name** by its foreign key, and nowhere
else. -/
theorem foreignKeyAt?_of_changeColumn? {change : Column → Column}
    (h : table.changeColumn? name change = some changed) :
    ∃ place column, table.columnNames.idxOf? name = some place ∧
      table.columns[place]? = some column ∧
      changed.foreignKeyAt? place = (change column).foreignKey ∧
      ∀ other ≠ place, changed.foreignKeyAt? other = table.foreignKeyAt? other := by
  obtain ⟨before, column, after, hsplit, hbefore, hname, rfl⟩ := changeColumn?_eq_some h
  refine ⟨before.length, column, ?_, ?_, ?_, ?_⟩
  · have hnew : name ∉ before.map (·.name) := by
      simpa using hbefore
    have hplace : (before.map (·.name) ++ name :: after.map (·.name)).idxOf? name =
        some (before.map (·.name)).length := idxOf?_split hnew
    rw [columnNames, hsplit, List.map_append, List.map_cons, hname, hplace, List.length_map]
  · rw [hsplit, getElem?_split_self]
  · rw [foreignKeyAt?, getElem?_split_self]
    rfl
  · intro other hother
    rw [foreignKeyAt?, foreignKeyAt?, hsplit, getElem?_split_of_ne hother]

/-- A change that keeps foreign keys keeps them at every place. -/
theorem foreignKeyAt?_of_keep {change : Column → Column}
    (hkeep : ∀ column, (change column).foreignKey = column.foreignKey)
    (h : table.changeColumn? name change = some changed) (place : Nat) :
    changed.foreignKeyAt? place = table.foreignKeyAt? place := by
  obtain ⟨at?, column, -, hcolumn, hchanged, hother⟩ := foreignKeyAt?_of_changeColumn? h
  by_cases hplace : place = at?
  · subst hplace
    rw [hchanged, hkeep, foreignKeyAt?, hcolumn]
    rfl
  · exact hother place hplace

theorem foreignKeyAt?_addColumn_of_ne {place : Nat} (hplace : place ≠ table.columns.length)
    (column : Column) :
    (table.addColumn column).foreignKeyAt? place = table.foreignKeyAt? place := by
  rw [foreignKeyAt?, foreignKeyAt?, addColumn]
  by_cases hlt : place < table.columns.length
  · rw [List.getElem?_append_left hlt]
  · have hle : table.columns.length ≤ place := by omega
    have hlong : (table.columns ++ [column]).length ≤ place := by
      rw [List.length_append, List.length_singleton]
      omega
    rw [List.getElem?_eq_none hle, List.getElem?_eq_none hlong]

theorem foreignKeyAt?_addColumn (table : Table) (column : Column) :
    (table.addColumn column).foreignKeyAt? table.columns.length = column.foreignKey := by
  rw [foreignKeyAt?, addColumn, getElem?_split_self]
  rfl

end Changes

end Table

end EntSchema.Relational
