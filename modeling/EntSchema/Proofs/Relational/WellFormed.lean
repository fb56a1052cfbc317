import EntSchema.Proofs.Relational.Lookup

/-!
# Well-formed tables

What the rest of the program takes for granted of a table: nothing in it is without a name, a
primary column is never null, no default stands for `NULL`, foreign keys are complete, and an
index is one over several columns. Each change that a script makes to a table keeps this.

The order of the indexes is not part of it, because it only holds once a table is finished:
`uniqueInFront_finalize`.
-/

namespace EntSchema.Relational

/-- A column whose parts are there and agree. -/
structure Column.WellFormed (column : Column) : Prop where
  name_ne : column.name ≠ ""
  type_ne : column.type ≠ ""
  notNull : column.isPrimary = true → column.isNotNull = true
  default : ∀ value, column.default = some value → value.isNull = false
  target : ∀ key, column.foreignKey = some key → key.table ≠ "" ∧ key.column ≠ ""

/-- A table of well-formed columns, with indexes over several columns only. -/
structure Table.WellFormed (table : Table) : Prop where
  name_ne : table.name ≠ ""
  columns : ∀ column ∈ table.columns, column.WellFormed
  indexes : ∀ index ∈ table.indexes, 2 ≤ index.columns.length

/-- No unique index stands after one that is not. -/
def UniqueInFront (indexes : List Index) : Prop :=
  indexes.Pairwise fun earlier later => later.isUnique = true → earlier.isUnique = true

namespace Column.WellFormed

variable {column : Column}

theorem new {name type : String} (hname : name ≠ "") (htype : type ≠ "") :
    Column.WellFormed { name, type } where
  name_ne := hname
  type_ne := htype
  notNull := by simp
  default := by simp
  target := by simp

theorem markPrimary (h : column.WellFormed) : column.markPrimary.WellFormed :=
  { h with notNull := fun _ => rfl }

theorem markUnique (h : column.WellFormed) (unique : Bool) :
    (column.markUnique unique).WellFormed :=
  { h with }

theorem setNotNull (h : column.WellFormed) :
    Column.WellFormed { column with isNotNull := true } :=
  { h with notNull := fun _ => rfl }

theorem setDefault (h : column.WellFormed) {value : DefaultValue} (hvalue : value.isNull = false) :
    Column.WellFormed { column with default := some value } := by
  refine { h with default := ?_ }
  intro other hother
  cases hother
  exact hvalue

theorem setForeignKey (h : column.WellFormed) {key : ForeignKey}
    (hkey : key.table ≠ "" ∧ key.column ≠ "") :
    Column.WellFormed { column with foreignKey := some key } := by
  refine { h with target := ?_ }
  intro other hother
  cases hother
  exact hkey

end Column.WellFormed

namespace Table.WellFormed

variable {table : Table}

theorem new {name : String} (hname : name ≠ "") : Table.WellFormed { name } where
  name_ne := hname
  columns := by simp
  indexes := by simp

theorem addColumn (h : table.WellFormed) {column : Column} (hcolumn : column.WellFormed) :
    (table.addColumn column).WellFormed := by
  refine { h with columns := ?_ }
  intro other hmem
  rcases List.mem_append.1 hmem with hmem | hmem
  · exact h.columns other hmem
  · rw [List.mem_singleton.1 hmem]
    exact hcolumn

theorem addIndex (h : table.WellFormed) {index : Index} (hindex : 2 ≤ index.columns.length) :
    (table.addIndex index).WellFormed := by
  refine { h with indexes := ?_ }
  intro other hmem
  rcases List.mem_append.1 hmem with hmem | hmem
  · exact h.indexes other hmem
  · rw [List.mem_singleton.1 hmem]
    exact hindex

theorem changeColumn? (h : table.WellFormed) {name : String} {change : Column → Column}
    {changed : Table} (hchange : ∀ column, column.WellFormed → (change column).WellFormed)
    (hchanged : table.changeColumn? name change = some changed) : changed.WellFormed := by
  obtain ⟨before, column, after, hsplit, -, -, rfl⟩ := changeColumn?_eq_some hchanged
  refine { name_ne := h.name_ne, columns := ?_, indexes := h.indexes }
  have hcolumns := h.columns
  rw [hsplit] at hcolumns
  intro other hmem
  rcases List.mem_append.1 hmem with hmem | hmem
  · exact hcolumns other (List.mem_append_left _ hmem)
  · rcases List.mem_cons.1 hmem with rfl | hmem
    · exact hchange column (hcolumns column (by simp))
    · exact hcolumns other (by simp [hmem])

end Table.WellFormed

/-! ## Finished tables -/

/-- Putting the unique indexes in front neither loses nor adds one. -/
theorem mem_uniqueFirst {index : Index} {indexes : List Index} :
    index ∈ uniqueFirst indexes ↔ index ∈ indexes := by
  cases hunique : index.isUnique <;> simp [uniqueFirst, hunique]

theorem uniqueInFront_uniqueFirst (indexes : List Index) :
    UniqueInFront (uniqueFirst indexes) := by
  refine List.pairwise_append.2 ⟨?_, ?_, ?_⟩
  · refine List.pairwise_of_forall_mem_list ?_
    intro earlier hmem later _ _
    exact (List.mem_filter.1 hmem).2
  · refine List.pairwise_of_forall_mem_list ?_
    intro earlier _ later hmem hunique
    have hnot := (List.mem_filter.1 hmem).2
    rw [hunique] at hnot
    exact absurd hnot (by decide)
  · intro earlier hmem later _ _
    exact (List.mem_filter.1 hmem).2

theorem Table.WellFormed.finalize {table : Table} (h : table.WellFormed) :
    table.finalize.WellFormed :=
  { h with indexes := fun index hmem => h.indexes index (mem_uniqueFirst.1 hmem) }

theorem uniqueInFront_finalize (table : Table) : UniqueInFront table.finalize.indexes :=
  uniqueInFront_uniqueFirst table.indexes

end EntSchema.Relational
