import EntSchema.Proofs.ParseTree.Stated

/-!
# What keys and indexes mark

A constraint or an index statement changes a table in a narrow way: it marks columns as primary or
as unique, and it adds index entries. `Marks` says exactly which. The table's name, the names of
its columns and all other marks stay, and whatever is marked is a declared column.

The relation composes, so a key of several columns is one fold of single marks, and the walk over
a script only has to know the marks of each step.

## Main results

* `ConstraintStep.marks` — a primary key marks its keys, a unique constraint marks its only key.
* `coverColumns_marks` — the same for the columns that an index covers.
-/

namespace EntSchema.ParseTree

open Relational Fold

/--
The second table is the first one with the columns marked that `primary` and `unique` name, the
first of each name, and with `added` after its indexes.
-/
structure Marks (primary unique : String → Prop) (added : List Index) (table changed : Table) :
    Prop where
  name : changed.name = table.name
  columnNames : changed.columnNames = table.columnNames
  primary_mem : ∀ name, primary name → name ∈ table.columnNames
  unique_mem : ∀ name, unique name → name ∈ table.columnNames
  column : ∀ name next, changed.column? name = some next →
    ∃ column, table.column? name = some column ∧
      (next.isPrimary = true ↔ column.isPrimary = true ∨ primary name) ∧
      (next.isNotNull = true ↔ column.isNotNull = true ∨ primary name) ∧
      (next.isUnique = true ↔ column.isUnique = true ∨ unique name)
  indexes : changed.indexes = table.indexes ++ added

namespace Marks

variable {primary unique : String → Prop} {added : List Index} {table changed : Table}

/-- Nothing is marked. -/
theorem refl (table : Table) : Marks (fun _ => False) (fun _ => False) [] table table where
  name := rfl
  columnNames := rfl
  primary_mem := fun _ h => h.elim
  unique_mem := fun _ h => h.elim
  column := fun name column h => ⟨column, h, by simp, by simp, by simp⟩
  indexes := (List.append_nil _).symm

/-- An index entry is added. -/
theorem addIndex (table : Table) (index : Index) :
    Marks (fun _ => False) (fun _ => False) [index] table (table.addIndex index) where
  name := rfl
  columnNames := rfl
  primary_mem := fun _ h => h.elim
  unique_mem := fun _ h => h.elim
  column := fun name column h => ⟨column, h, by simp, by simp, by simp⟩
  indexes := rfl

/-- Marking in two steps. -/
theorem trans {morePrimary moreUnique : String → Prop} {more : List Index} {last : Table}
    (first : Marks primary unique added table changed)
    (second : Marks morePrimary moreUnique more changed last) :
    Marks (fun name => primary name ∨ morePrimary name) (fun name => unique name ∨ moreUnique name)
      (added ++ more) table last where
  name := second.name.trans first.name
  columnNames := second.columnNames.trans first.columnNames
  primary_mem := by
    rintro name (h | h)
    · exact first.primary_mem name h
    · rw [← first.columnNames]
      exact second.primary_mem name h
  unique_mem := by
    rintro name (h | h)
    · exact first.unique_mem name h
    · rw [← first.columnNames]
      exact second.unique_mem name h
  column := by
    intro name next hnext
    obtain ⟨middle, hmiddle, hprimary₂, hnotNull₂, hunique₂⟩ := second.column name next hnext
    obtain ⟨column, hcolumn, hprimary₁, hnotNull₁, hunique₁⟩ := first.column name middle hmiddle
    refine ⟨column, hcolumn, ?_, ?_, ?_⟩
    · rw [hprimary₂, hprimary₁, or_assoc]
    · rw [hnotNull₂, hnotNull₁, or_assoc]
    · rw [hunique₂, hunique₁, or_assoc]
  indexes := by rw [second.indexes, first.indexes, List.append_assoc]

/-- The marks may be named in another way. -/
theorem congr {primary' unique' : String → Prop} (h : Marks primary unique added table changed)
    (hprimary : ∀ name, primary' name ↔ primary name)
    (hunique : ∀ name, unique' name ↔ unique name) :
    Marks primary' unique' added table changed where
  name := h.name
  columnNames := h.columnNames
  primary_mem := fun name hname => h.primary_mem name ((hprimary name).1 hname)
  unique_mem := fun name hname => h.unique_mem name ((hunique name).1 hname)
  column := by
    simp only [hprimary, hunique]
    exact h.column
  indexes := h.indexes

/-- Changing one column marks it, if the change does. -/
theorem of_changeColumn? {name : String} {change : Column → Column} (isKey isCovered : Prop)
    (hname : ∀ column, (change column).name = column.name)
    (hprimary : ∀ column, (change column).isPrimary = true ↔ column.isPrimary = true ∨ isKey)
    (hnotNull : ∀ column, (change column).isNotNull = true ↔ column.isNotNull = true ∨ isKey)
    (hunique : ∀ column, (change column).isUnique = true ↔ column.isUnique = true ∨ isCovered)
    (h : table.changeColumn? name change = some changed) :
    Marks (fun other => other = name ∧ isKey) (fun other => other = name ∧ isCovered) []
      table changed where
  name := Table.name_of_changeColumn? h
  columnNames := Table.columnNames_of_changeColumn? hname h
  primary_mem := by
    rintro other ⟨rfl, -⟩
    exact Table.mem_columnNames_of_changeColumn? h
  unique_mem := by
    rintro other ⟨rfl, -⟩
    exact Table.mem_columnNames_of_changeColumn? h
  column := by
    intro other next hnext
    rw [Table.column?_of_changeColumn? hname h, Option.map_eq_some_iff] at hnext
    obtain ⟨column, hcolumn, rfl⟩ := hnext
    refine ⟨column, hcolumn, ?_⟩
    by_cases hother : other = name
    · simp [hother, hprimary, hnotNull, hunique]
    · simp [hother]
  indexes := by rw [Table.indexes_of_changeColumn? h, List.append_nil]

end Marks

/-! ## Marks of each step -/

variable {tables : List Table} {table changed : Table}

/-- A single covered column is marked when the index is unique; several make an entry. -/
theorem coverColumns_marks {columns : List String} {isUnique : Bool} {purpose : Purpose}
    (h : coverColumns table columns isUnique purpose = .ok changed) :
    Marks (fun _ => False) (fun name => isUnique = true ∧ columns = [name])
      (severalIndex? columns isUnique).toList table changed := by
  rcases coverColumns_eq_ok.1 h with ⟨hnone, hsame⟩ | ⟨only, honly, hchange⟩ | ⟨hseveral, hadd⟩
  · subst hnone hsame
    exact (Marks.refl changed).congr (by simp) (by simp)
  · subst honly
    have hmarks := Marks.of_changeColumn? False (isUnique = true)
      (by simp [Column.markUnique]) (by simp [Column.markUnique]) (by simp [Column.markUnique])
      (by simp [Column.markUnique]) hchange
    exact hmarks.congr (by simp) (by simp [and_comm, eq_comm])
  · subst hadd
    rw [severalIndex?, if_pos hseveral]
    refine (Marks.addIndex table { columns, isUnique }).congr (by simp) ?_
    rintro name
    constructor
    · rintro ⟨-, hname⟩
      rw [hname] at hseveral
      exact absurd hseveral (by simp)
    · exact False.elim

/-- Marking keys one after the other marks them all. -/
theorem markPrimary_marks {keys : List String} {purpose : Purpose}
    (h : keys.foldlM (fun table key => changeColumn table key purpose (·.markPrimary)) table
      = .ok changed) :
    Marks (· ∈ keys) (fun _ => False) [] table changed := by
  refine foldlM_history (fun past state => Marks (· ∈ past) (fun _ => False) [] table state)
    ?_ ?_ h
  · exact (Marks.refl table).congr (by simp) (by simp)
  · intro past state key next hpast hnext
    have hmarks := Marks.of_changeColumn? True False
      (by simp [Column.markPrimary]) (by simp [Column.markPrimary]) (by simp [Column.markPrimary])
      (by simp [Column.markPrimary]) (changeColumn_eq_ok.1 hnext)
    exact (hpast.trans hmarks).congr (by simp) (by simp)

/-- A primary key marks its keys, a unique constraint its only key, or it makes an entry of
several; every other constraint marks nothing. -/
theorem ConstraintStep.marks {constraint : Json}
    (h : ConstraintStep tables table constraint changed) :
    Marks
      (fun name => ConstraintKind.ofNode? constraint = some .primaryKey ∧
        name ∈ stringsAt constraint "keys")
      (fun name => ConstraintKind.ofNode? constraint = some .unique ∧
        stringsAt constraint "keys" = [name])
      (if ConstraintKind.ofNode? constraint = some .unique
        then (severalIndex? (stringsAt constraint "keys") true).toList else [])
      table changed := by
  cases h with
  | ignored hkind =>
    have hprimary : ConstraintKind.ofNode? constraint ≠ some .primaryKey := by
      intro h
      simp [h] at hkind
    have hunique : ConstraintKind.ofNode? constraint ≠ some .unique := by
      intro h
      simp [h] at hkind
    rw [if_neg hunique]
    exact (Marks.refl table).congr (by simp [hprimary]) (by simp [hunique])
  | primaryKey hkind hkeys =>
    rw [hkind]
    exact (markPrimary_marks hkeys).congr (by simp) (by simp)
  | unique hkind hcover =>
    rw [hkind]
    exact (coverColumns_marks hcover).congr (by simp) (by simp)
  | foreignKey hkind htarget hname hchange =>
    rw [hkind]
    have hmarks := Marks.of_changeColumn? False False (by simp) (by simp) (by simp) (by simp)
      hchange
    exact hmarks.congr (by simp) (by simp)

end EntSchema.ParseTree
