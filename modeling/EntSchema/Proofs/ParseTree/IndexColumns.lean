import EntSchema.Proofs.ParseTree.Accounting
import EntSchema.Proofs.Relational.WellFormed

/-!
# The columns that an index entry refers to

An index over one column is looked up: it marks a declared column or it stops the script. An index
over several columns is written down as it stands, so its entry may list a name that no column of
the table has. Whether it does is decided by the script alone, and `ColumnsDeclared` says how: the
unique constraints of each table and the index statements on it must list defined columns only.

The index statements on a name all go to the first table of that name. They are compared with the
definitions of that table and not with those of its namesakes.

## Main results

* `coverColumns_accepted_iff` — which constraints and indexes are refused for their columns.
* `TableStated.indexesDeclared_iff` — one table, against its statement and the index statements.
* `Agrees.indexesDeclared_iff` — the tables of one name.
* `tablesOf_indexesDeclared_iff` — exactly when an accepted script has no stray index entry.
* `tablesOf_strayTree` — a script that is accepted and has one.
-/

namespace EntSchema.ParseTree

open Relational

/-- The index entries of a table list names of its columns only. -/
def IndexesDeclared (table : Table) : Prop :=
  ∀ index ∈ table.indexes, ∀ name ∈ index.columns, name ∈ table.columnNames

instance (table : Table) : Decidable (IndexesDeclared table) :=
  inferInstanceAs (Decidable (∀ index ∈ table.indexes, ∀ name ∈ index.columns,
    name ∈ table.columnNames))

/-- The entries list columns only that the statement of a table defines. -/
def ListDefined (statement : Json) (entries : List Index) : Prop :=
  ∀ entry ∈ entries, ∀ name ∈ entry.columns,
    name ∈ definedNames (itemsAt statement "tableElts")

/-- The unique constraints of a statement over several columns list columns that it defines. -/
def ConstraintsDeclared (statement : Json) : Prop :=
  ListDefined statement (constraintIndexes (itemsAt statement "tableElts"))

/-- What a script must keep to for the index entries of the tables of a name. -/
structure ColumnsDeclared (script : List Json) (name : String) : Prop where
  constraints : ∀ statement ∈ creating name script, ConstraintsDeclared statement
  indexes : ∀ statement, (creating name script).head? = some statement →
    ListDefined statement (statementIndexes (indexing name script))

/-! ## One table -/

section Table

variable {table : Table} {tables : List Table} {statement : Json} {statements later : List Json}

theorem indexesDeclared_finalize : IndexesDeclared table.finalize ↔ IndexesDeclared table := by
  unfold IndexesDeclared
  refine forall_congr' fun index => ?_
  have hmem : index ∈ table.finalize.indexes ↔ index ∈ table.indexes := mem_uniqueFirst
  rw [hmem, Table.columnNames_finalize]

theorem listDefined_append {first second : List Index} :
    ListDefined statement (first ++ second) ↔
      ListDefined statement first ∧ ListDefined statement second := by
  unfold ListDefined
  exact List.forall_mem_append

/-- **A constraint or an index is refused for its columns** only when it has a single one and that
is not declared. -/
theorem coverColumns_accepted_iff {columns : List String} {isUnique : Bool} {purpose : Purpose} :
    (∃ changed, coverColumns table columns isUnique purpose = .ok changed) ↔
      ∀ name, columns = [name] → name ∈ table.columnNames := by
  match columns with
  | [] => simp [coverColumns]
  | [name] =>
    simp only [coverColumns, changeColumn_eq_ok, Table.exists_changeColumn?_iff]
    constructor
    · intro hmem other hother
      cases hother
      exact hmem
    · intro hall
      exact hall name rfl
  | first :: second :: rest => simp [coverColumns]

theorem TableStated.indexesDeclared_iff
    (h : TableStated (itemsAt statement "tableElts") later table) :
    IndexesDeclared table ↔
      ConstraintsDeclared statement ∧ ListDefined statement (statementIndexes later) := by
  unfold IndexesDeclared ConstraintsDeclared
  rw [h.columnNames, h.indexes, ← listDefined_append]
  rfl

theorem AsCreated.indexesDeclared_iff (h : AsCreated statement table) :
    IndexesDeclared table ↔ ConstraintsDeclared statement := by
  have hnone : ListDefined statement (statementIndexes []) := by
    intro entry hmem
    cases hmem
  rw [TableStated.indexesDeclared_iff h]
  exact and_iff_left hnone

/-- Tables that no index statement is about only depend on their own statements. -/
theorem forall_indexesDeclared_iff (h : List.Forall₂ AsCreated statements tables) :
    (∀ table ∈ tables, IndexesDeclared table) ↔
      ∀ statement ∈ statements, ConstraintsDeclared statement := by
  induction h with
  | nil => simp
  | cons hfirst hrest ih =>
    rw [List.forall_mem_cons, List.forall_mem_cons, hfirst.indexesDeclared_iff, ih]

end Table

/-! ## The tables of a name -/

variable {script : List Json} {tables : List Table}

/-- **The tables of a name have no stray index entry** exactly when their statements and the index
statements on the name list defined columns only. -/
theorem Agrees.indexesDeclared_iff (h : Agrees script tables) (name : String) :
    (∀ table ∈ named name tables, IndexesDeclared table) ↔ ColumnsDeclared script name := by
  have hname := h name
  have hdeclared : ColumnsDeclared script name ↔
      (∀ statement ∈ creating name script, ConstraintsDeclared statement) ∧
        ∀ statement, (creating name script).head? = some statement →
          ListDefined statement (statementIndexes (indexing name script)) :=
    ⟨fun h => ⟨h.constraints, h.indexes⟩, fun h => ⟨h.1, h.2⟩⟩
  rw [hdeclared]
  generalize creating name script = creates at hname ⊢
  generalize indexing name script = later at hname ⊢
  generalize named name tables = namesakes at hname ⊢
  cases hname with
  | none hlater => simp
  | @some statement statements table rest hfirst hrest =>
    have hhead : (∀ other, (statement :: statements).head? = some other →
        ListDefined other (statementIndexes later)) ↔
          ListDefined statement (statementIndexes later) := by
      simp
    rw [List.forall_mem_cons, List.forall_mem_cons, hfirst.indexesDeclared_iff,
      forall_indexesDeclared_iff hrest, hhead, and_right_comm]

/-! ## Accepted scripts -/

/--
**The index entries of an accepted script list declared columns** exactly when the script lists
defined columns wherever it asks for an entry. Being accepted does not imply it, as `strayTree`
shows.
-/
theorem tablesOf_indexesDeclared_iff {tree : Json} (h : tablesOf tree = .ok tables) :
    ∃ script, statements tree = .ok script ∧
      ((∀ table ∈ tables, IndexesDeclared table) ↔ ∀ name, ColumnsDeclared script name) := by
  obtain ⟨script, left, hscript, hrun, rfl⟩ := tablesOf_eq_ok.1 h
  refine ⟨script, hscript, ?_⟩
  have hagrees := run_agrees hrun
  have hleft : (∀ table ∈ left.map (·.finalize), IndexesDeclared table) ↔
      ∀ table ∈ left, IndexesDeclared table := by
    rw [List.forall_mem_map]
    exact forall_congr' fun table => forall_congr' fun _ => indexesDeclared_finalize
  rw [hleft]
  constructor
  · intro hall name
    rw [← hagrees.indexesDeclared_iff name]
    intro table hmem
    exact hall table (List.mem_of_mem_filter hmem)
  · intro hall table hmem
    have hnamed : table ∈ named table.name left := by
      rw [named, List.mem_filter]
      exact ⟨hmem, by simp⟩
    exact (hagrees.indexesDeclared_iff table.name).2 (hall table.name) table hnamed

/-- The blog has three index entries, and it lists defined columns only. -/
theorem blogTree_columnsDeclared :
    ∃ script, statements blogTree = .ok script ∧ ∀ name, ColumnsDeclared script name := by
  obtain ⟨script, hscript, hiff⟩ := tablesOf_indexesDeclared_iff tablesOf_blogTree
  have hblog : ∀ table ∈ blogTables, IndexesDeclared table := by decide
  exact ⟨script, hscript, hiff.1 hblog⟩

/-- A table of one column, and an index over that column and one that is nowhere declared. -/
def strayTree : Json :=
  scriptNode
    [ tableNode "users" [columnNode "email" "text" []]
    , indexNode "users" [indexElement "email", indexElement "handle"] false ]

/-- The tables of `strayTree`. -/
def strayTables : List Table :=
  [ { name := "users"
      columns := [{ name := "email", type := "text" }]
      indexes := [{ columns := ["email", "handle"], isUnique := false }] } ]

/-- **An accepted script may have a stray index entry.** -/
theorem tablesOf_strayTree :
    tablesOf strayTree = .ok strayTables ∧ ∃ table ∈ strayTables, ¬IndexesDeclared table := by
  constructor
  · decide +kernel
  · decide

end EntSchema.ParseTree
