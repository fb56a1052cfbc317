import EntSchema.Relational.Table

/-!
# Looking columns up by name

A table is seen through `column?`, the first column of a name, and through `columnNames`, the
names in order. This file says once for each change of a table what it does to these two views;
after that no proof opens `changeNamed?` again.

Every change of a column that a script makes keeps the column's name. The lemmas take this as the
hypothesis `hkeep`.

## Main results

* `changeNamed?_eq_some` — a change is a change of one column, with none of that name before it.
* `column?_of_changeColumn?` — a change is seen under its own name only.
* `column?_addColumn` — a new column is seen when its name is new.
* `changeColumn?_comm` — two changes of columns do not depend on their order.
-/

namespace EntSchema.Relational

variable {name : String} {change : Column → Column}

/-! ## Marks -/

theorem Column.markUnique_comm (column : Column) (unique unique' : Bool) :
    (column.markUnique unique').markUnique unique =
      (column.markUnique unique).markUnique unique' := by
  simp only [Column.markUnique, Bool.or_right_comm]

theorem Column.markUnique_markUnique (column : Column) (unique : Bool) :
    (column.markUnique unique).markUnique unique = column.markUnique unique := by
  simp only [Column.markUnique, Bool.or_assoc, Bool.or_self]

/-! ## One column of a list -/

theorem changeNamed?_cons_of_eq {column : Column} (hname : column.name = name) (rest : List Column) :
    changeNamed? name change (column :: rest) = some (change column :: rest) :=
  if_pos hname

theorem changeNamed?_cons_of_ne {column : Column} (hname : column.name ≠ name)
    (rest : List Column) :
    changeNamed? name change (column :: rest) = (changeNamed? name change rest).map (column :: ·) :=
  if_neg hname

/-- Changing the first column of a name splits the columns at that column. -/
theorem changeNamed?_eq_some {columns changed : List Column}
    (h : changeNamed? name change columns = some changed) :
    ∃ before column after, columns = before ++ column :: after ∧
      (∀ earlier ∈ before, earlier.name ≠ name) ∧ column.name = name ∧
      changed = before ++ change column :: after := by
  induction columns generalizing changed with
  | nil => cases h
  | cons column rest ih =>
    by_cases hname : column.name = name
    · rw [changeNamed?_cons_of_eq hname, Option.some.injEq] at h
      exact ⟨[], column, rest, rfl, by simp, hname, h.symm⟩
    · rw [changeNamed?_cons_of_ne hname, Option.map_eq_some_iff] at h
      obtain ⟨tail, htail, rfl⟩ := h
      obtain ⟨before, found, after, rfl, hbefore, hfound, rfl⟩ := ih htail
      refine ⟨column :: before, found, after, rfl, ?_, hfound, rfl⟩
      intro earlier hmem
      rcases List.mem_cons.1 hmem with rfl | hmem
      · exact hname
      · exact hbefore earlier hmem

/-- Where the columns are split at the first one of a name, that one is changed. -/
theorem changeNamed?_append {before after : List Column} {column : Column}
    (hbefore : ∀ earlier ∈ before, earlier.name ≠ column.name) :
    changeNamed? column.name change (before ++ column :: after) =
      some (before ++ change column :: after) := by
  induction before with
  | nil => exact changeNamed?_cons_of_eq rfl after
  | cons earlier rest ih =>
    have hrest := ih fun other hmem => hbefore other (List.mem_cons_of_mem _ hmem)
    have hearlier := hbefore earlier List.mem_cons_self
    rw [List.cons_append, changeNamed?_cons_of_ne hearlier, hrest]
    rfl

theorem exists_changeNamed? {columns : List Column} (hmem : name ∈ columns.map (·.name)) :
    ∃ changed, changeNamed? name change columns = some changed := by
  induction columns with
  | nil => cases hmem
  | cons column rest ih =>
    by_cases hname : column.name = name
    · exact ⟨change column :: rest, changeNamed?_cons_of_eq hname rest⟩
    · have hrest : name ∈ rest.map (·.name) := by
        rw [List.map_cons, List.mem_cons] at hmem
        exact hmem.resolve_left fun heq => hname heq.symm
      obtain ⟨changed, hchanged⟩ := ih hrest
      refine ⟨column :: changed, ?_⟩
      rw [changeNamed?_cons_of_ne hname, hchanged, Option.map_some]

/-! ## Two columns of a list -/

section Twice

variable {other : String} {change' : Column → Column} {column : Column}

/-- A column of a third name is passed over by both changes. -/
theorem changeNamed?_bind_cons (hname : column.name ≠ name) (hother : column.name ≠ other)
    (rest : List Column) :
    (changeNamed? name change (column :: rest)).bind (changeNamed? other change') =
      ((changeNamed? name change rest).bind (changeNamed? other change')).map (column :: ·) := by
  rw [changeNamed?_cons_of_ne hname]
  cases changeNamed? name change rest with
  | none => rfl
  | some changed => exact changeNamed?_cons_of_ne hother changed

/-- Changing the first column of a name twice is changing it once, by both changes. -/
theorem changeNamed?_bind (hkeep : ∀ column, (change column).name = column.name)
    (columns : List Column) :
    (changeNamed? name change columns).bind (changeNamed? name change') =
      changeNamed? name (fun column => change' (change column)) columns := by
  induction columns with
  | nil => rfl
  | cons column rest ih =>
    by_cases hname : column.name = name
    · have hchanged : (change column).name = name := (hkeep column).trans hname
      rw [changeNamed?_cons_of_eq hname, changeNamed?_cons_of_eq hname, Option.bind_some,
        changeNamed?_cons_of_eq hchanged]
    · rw [changeNamed?_bind_cons hname hname, changeNamed?_cons_of_ne hname, ih]

/-- The first change hits the first column, and the other one a later column. -/
theorem changeNamed?_comm_head (hkeep : ∀ column, (change column).name = column.name)
    (hname : column.name = name) (hother : column.name ≠ other) (rest : List Column) :
    (changeNamed? name change (column :: rest)).bind (changeNamed? other change') =
      (changeNamed? other change' (column :: rest)).bind (changeNamed? name change) := by
  have hchanged : (change column).name ≠ other := by
    rw [hkeep]
    exact hother
  rw [changeNamed?_cons_of_eq hname, changeNamed?_cons_of_ne hother, Option.bind_some,
    changeNamed?_cons_of_ne hchanged]
  cases changeNamed? other change' rest with
  | none => rfl
  | some changed => exact (changeNamed?_cons_of_eq hname changed).symm

/-- **Changing the columns of two names** does not depend on the order. -/
theorem changeNamed?_comm (hne : name ≠ other)
    (hkeep : ∀ column, (change column).name = column.name)
    (hkeep' : ∀ column, (change' column).name = column.name) (columns : List Column) :
    (changeNamed? name change columns).bind (changeNamed? other change') =
      (changeNamed? other change' columns).bind (changeNamed? name change) := by
  induction columns with
  | nil => rfl
  | cons column rest ih =>
    by_cases hname : column.name = name
    · have hother : column.name ≠ other := by
        rw [hname]
        exact hne
      exact changeNamed?_comm_head hkeep hname hother rest
    · by_cases hother : column.name = other
      · exact (changeNamed?_comm_head hkeep' hother hname rest).symm
      · rw [changeNamed?_bind_cons hname hother, changeNamed?_bind_cons hother hname, ih]

end Twice

namespace Table

/-- The names of the columns, in order. -/
def columnNames (table : Table) : List String := table.columns.map (·.name)

/-! ## The first column of a name -/

theorem column?_eq_none_iff {table : Table} :
    table.column? name = none ↔ name ∉ table.columnNames := by
  simp [column?, columnNames]

theorem name_of_column? {table : Table} {column : Column}
    (h : table.column? name = some column) : column.name = name := by
  have := List.find?_some h
  simpa using this

/-! ## Changing a column -/

section Change

variable {table changed : Table}

/-- A changed table differs from the table in one column. -/
theorem changeColumn?_eq_some (h : table.changeColumn? name change = some changed) :
    ∃ before column after, table.columns = before ++ column :: after ∧
      (∀ earlier ∈ before, earlier.name ≠ name) ∧ column.name = name ∧
      changed = { table with columns := before ++ change column :: after } := by
  obtain ⟨columns, hcolumns, rfl⟩ := Option.map_eq_some_iff.1 h
  obtain ⟨before, column, after, hsplit, hbefore, hname, rfl⟩ := changeNamed?_eq_some hcolumns
  exact ⟨before, column, after, hsplit, hbefore, hname, rfl⟩

theorem changeColumn?_of_split {before after : List Column} {column : Column}
    (hsplit : table.columns = before ++ column :: after)
    (hbefore : ∀ earlier ∈ before, earlier.name ≠ column.name) :
    table.changeColumn? column.name change =
      some { table with columns := before ++ change column :: after } := by
  rw [changeColumn?, hsplit, changeNamed?_append hbefore]
  rfl

theorem mem_columnNames_of_changeColumn? (h : table.changeColumn? name change = some changed) :
    name ∈ table.columnNames := by
  obtain ⟨before, column, after, hsplit, -, hname, -⟩ := changeColumn?_eq_some h
  simp [columnNames, hsplit, hname]

/-- A column can be changed exactly when its name is declared. -/
theorem exists_changeColumn?_iff :
    (∃ changed, table.changeColumn? name change = some changed) ↔ name ∈ table.columnNames := by
  constructor
  · rintro ⟨changed, h⟩
    exact mem_columnNames_of_changeColumn? h
  · intro hmem
    have hfound : ∃ columns, changeNamed? name change table.columns = some columns :=
      exists_changeNamed? hmem
    obtain ⟨columns, hcolumns⟩ := hfound
    exact ⟨{ table with columns }, Option.map_eq_some_iff.2 ⟨columns, hcolumns, rfl⟩⟩

theorem name_of_changeColumn? (h : table.changeColumn? name change = some changed) :
    changed.name = table.name := by
  obtain ⟨before, column, after, -, -, -, rfl⟩ := changeColumn?_eq_some h
  rfl

theorem indexes_of_changeColumn? (h : table.changeColumn? name change = some changed) :
    changed.indexes = table.indexes := by
  obtain ⟨before, column, after, -, -, -, rfl⟩ := changeColumn?_eq_some h
  rfl

/-- What a change keeps of every column is the same for the columns in order. -/
theorem map_columns_of_changeColumn? {α : Type} {view : Column → α}
    (hkeep : ∀ column, view (change column) = view column)
    (h : table.changeColumn? name change = some changed) :
    changed.columns.map view = table.columns.map view := by
  obtain ⟨before, column, after, hsplit, -, -, rfl⟩ := changeColumn?_eq_some h
  simp [hsplit, hkeep]

theorem columnNames_of_changeColumn? (hkeep : ∀ column, (change column).name = column.name)
    (h : table.changeColumn? name change = some changed) :
    changed.columnNames = table.columnNames :=
  map_columns_of_changeColumn? hkeep h

/-- **A change is seen under its own name only.** -/
theorem column?_of_changeColumn? (hkeep : ∀ column, (change column).name = column.name)
    (h : table.changeColumn? name change = some changed) (other : String) :
    changed.column? other =
      (table.column? other).map fun column => if other = name then change column else column := by
  obtain ⟨before, column, after, hsplit, hbefore, hname, rfl⟩ := changeColumn?_eq_some h
  simp only [column?, hsplit, List.find?_append]
  by_cases hother : other = name
  · subst hother
    have hnone : before.find? (·.name == other) = none := by
      simpa using hbefore
    simp [hnone, hkeep, hname]
  · have hne : ¬column.name = other := fun heq => hother (heq.symm.trans hname)
    simp [hkeep, hne, hother]

end Change

/-! ## Changing two columns -/

section Twice

variable {other : String} {change' : Column → Column} (table : Table)

private theorem changeColumn?_bind_eq_map :
    (table.changeColumn? name change).bind (·.changeColumn? other change') =
      ((changeNamed? name change table.columns).bind (changeNamed? other change')).map
        fun columns => { table with columns } := by
  rw [changeColumn?]
  cases changeNamed? name change table.columns with
  | none => rfl
  | some columns => rfl

theorem changeColumn?_bind (hkeep : ∀ column, (change column).name = column.name) :
    (table.changeColumn? name change).bind (·.changeColumn? name change') =
      table.changeColumn? name (fun column => change' (change column)) := by
  rw [changeColumn?_bind_eq_map, changeNamed?_bind hkeep]
  rfl

/-- **Two changes of columns commute** when they are about two names, or are changes that
commute. -/
theorem changeColumn?_comm (hkeep : ∀ column, (change column).name = column.name)
    (hkeep' : ∀ column, (change' column).name = column.name)
    (hsame : ∀ column, change' (change column) = change (change' column)) :
    (table.changeColumn? name change).bind (·.changeColumn? other change') =
      (table.changeColumn? other change').bind (·.changeColumn? name change) := by
  by_cases hname : name = other
  · subst hname
    rw [changeColumn?_bind table hkeep, changeColumn?_bind table hkeep', funext hsame]
  · rw [changeColumn?_bind_eq_map, changeColumn?_bind_eq_map, changeNamed?_comm hname hkeep hkeep']

/-- Changing a column does not see the indexes. -/
theorem changeColumn?_setIndexes (indexes : List Index) :
    ({ table with indexes } : Table).changeColumn? name change =
      (table.changeColumn? name change).map ({ · with indexes }) := by
  rw [changeColumn?, changeColumn?, Option.map_map]
  rfl

end Twice

/-! ## Adding columns and indexes -/

@[simp] theorem columnNames_addColumn (table : Table) (column : Column) :
    (table.addColumn column).columnNames = table.columnNames ++ [column.name] := by
  simp [columnNames, addColumn]

/-- A new column is seen when no column before it has its name. -/
theorem column?_addColumn (table : Table) (column : Column) :
    (table.addColumn column).column? name =
      (table.column? name).or (if column.name = name then some column else none) := by
  simp only [column?, addColumn, List.find?_append]
  by_cases hname : column.name = name
  · simp [hname]
  · simp [hname]

@[simp] theorem columnNames_finalize (table : Table) :
    table.finalize.columnNames = table.columnNames := rfl

@[simp] theorem column?_finalize (table : Table) :
    table.finalize.column? name = table.column? name := rfl

end Table

end EntSchema.Relational
