import EntSchema.Proofs.ParseTree.Nodes
import EntSchema.Proofs.ParseTree.Steps
import EntSchema.Proofs.Relational.WellFormed

/-!
# Accepted scripts declare well-formed tables

Nothing checks a table after it has been read, so everything that the tables promise has to come
out of the walk itself. The invariant is `Table.WellFormed`, for the table under construction and
for all tables before it at once: a foreign key that names no column takes the name of a primary
column out of one of these tables, and only their invariant says that this name is not empty.

The order of the indexes comes from the last step, which finishes every table.
-/

namespace EntSchema.ParseTree

open Relational Fold

variable {tables : List Table} {current table changed : Table}

/-! ## Foreign keys and columns -/

theorem implicitTarget_ne (htables : ∀ table ∈ tables, table.WellFormed) (name : String) :
    implicitTarget name tables ≠ "" := by
  rw [implicitTarget]
  split
  · rename_i column hcolumn
    have hmem := List.mem_of_find?_eq_some hcolumn
    obtain ⟨table, htable, hmem⟩ := List.mem_flatMap.1 hmem
    exact ((htables table (List.mem_filter.1 htable).1).columns column hmem).name_ne
  · decide

/-- A foreign key has both of its parts. -/
theorem foreignKeyTarget_ne (htables : ∀ table ∈ tables, table.WellFormed)
    (hcurrent : current.WellFormed) {constraint : Json} {target : ForeignKey}
    (h : foreignKeyTarget tables current constraint = .ok target) :
    target.table ≠ "" ∧ target.column ≠ "" := by
  obtain ⟨htable, hcolumn⟩ := foreignKeyTarget_eq_ok.1 h
  refine ⟨ne_empty_of_nonEmptyText? htable, ?_⟩
  rcases hcolumn with ⟨columns, -, hcolumn⟩ | ⟨-, hcolumn⟩
  · exact ne_empty_of_nonEmptyText? hcolumn
  · rw [hcolumn]
    refine implicitTarget_ne ?_ _
    intro table hmem
    rcases List.mem_cons.1 hmem with rfl | hmem
    · exact hcurrent
    · exact htables table hmem

theorem ColumnStep.wellFormed (htables : ∀ table ∈ tables, table.WellFormed)
    (hcurrent : current.WellFormed) {constraint : Json} {column next : Column}
    (h : ColumnStep tables current constraint column next) (hcolumn : column.WellFormed) :
    next.WellFormed := by
  cases h with
  | ignored hkind => exact hcolumn
  | notNull hkind => exact hcolumn.setNotNull
  | @default tag body value hkind hexpr hvalue =>
    cases hnull : value.isNull with
    | true => exact hcolumn
    | false => exact hcolumn.setDefault hnull
  | primaryKey hkind => exact hcolumn.markPrimary
  | unique hkind => exact hcolumn.markUnique true
  | foreignKey hkind htarget =>
    exact hcolumn.setForeignKey (foreignKeyTarget_ne htables hcurrent htarget)

theorem readColumn_wellFormed (htables : ∀ table ∈ tables, table.WellFormed)
    (hcurrent : current.WellFormed) {definition : Json} {column : Column}
    (h : readColumn tables current definition = .ok column) : column.WellFormed := by
  obtain ⟨name, node, type, hname, -, htype, hfold⟩ := readColumn_eq_ok.1 h
  refine foldlM_invariant Column.WellFormed ?_ ?_ hfold
  · exact Column.WellFormed.new (ne_empty_of_nonEmptyText? hname)
      (ne_empty_of_requireLastName htype)
  · intro column element next hcolumn hnext
    obtain ⟨constraint, -, hstep⟩ := applyColumnConstraint_eq_ok.1 hnext
    exact hstep.wellFormed htables hcurrent hcolumn

/-! ## Tables -/

theorem coverColumns_wellFormed {columns : List String} {isUnique : Bool} {purpose : Purpose}
    (h : coverColumns table columns isUnique purpose = .ok changed) (htable : table.WellFormed) :
    changed.WellFormed := by
  rcases coverColumns_eq_ok.1 h with ⟨-, rfl⟩ | ⟨name, -, hchange⟩ | ⟨hseveral, rfl⟩
  · exact htable
  · exact htable.changeColumn? (fun column hcolumn => hcolumn.markUnique isUnique) hchange
  · exact htable.addIndex hseveral

theorem ConstraintStep.wellFormed (htables : ∀ table ∈ tables, table.WellFormed)
    {constraint : Json} (h : ConstraintStep tables table constraint changed)
    (htable : table.WellFormed) : changed.WellFormed := by
  cases h with
  | ignored hkind => exact htable
  | primaryKey hkind hkeys =>
    refine foldlM_invariant Table.WellFormed htable ?_ hkeys
    intro table key next htable hnext
    exact htable.changeColumn? (fun column hcolumn => hcolumn.markPrimary)
      (changeColumn_eq_ok.1 hnext)
  | unique hkind hcover => exact coverColumns_wellFormed hcover htable
  | foreignKey hkind htarget hname hchange =>
    exact htable.changeColumn?
      (fun column hcolumn => hcolumn.setForeignKey (foreignKeyTarget_ne htables htable htarget))
      hchange

theorem ElementStep.wellFormed (htables : ∀ table ∈ tables, table.WellFormed)
    {element : Json} (h : ElementStep tables table element changed) (htable : table.WellFormed) :
    changed.WellFormed := by
  cases h with
  | column htag hcolumn => exact htable.addColumn (readColumn_wellFormed htables htable hcolumn)
  | constraint htag hstep => exact hstep.wellFormed htables htable
  | ignored hcolumn hconstraint => exact htable

theorem createTable_wellFormed (htables : ∀ table ∈ tables, table.WellFormed)
    {statement : Json} (h : createTable tables statement = .ok table) : table.WellFormed := by
  obtain ⟨name, hname, hfold⟩ := createTable_eq_ok.1 h
  refine foldlM_invariant Table.WellFormed ?_ ?_ hfold
  · exact Table.WellFormed.new (ne_empty_of_nonEmptyText? hname)
  · intro table element next htable hnext
    exact (applyElement_eq_ok.1 hnext).wellFormed htables htable

/-! ## Scripts -/

theorem StatementStep.wellFormed {statement : Json} {next : List Table}
    (h : StatementStep tables statement next) (htables : ∀ table ∈ tables, table.WellFormed) :
    ∀ table ∈ next, table.WellFormed := by
  intro other hmem
  cases h with
  | createTable htag htable =>
    rcases List.mem_append.1 hmem with hmem | hmem
    · exact htables other hmem
    · rw [List.mem_singleton.1 hmem]
      exact createTable_wellFormed htables htable
  | createIndex htag hrelation hsplit hbefore hname hnamed hcover =>
    rw [hsplit] at htables
    rcases List.mem_append.1 hmem with hmem | hmem
    · exact htables other (List.mem_append_left _ hmem)
    · rcases List.mem_cons.1 hmem with rfl | hmem
      · exact coverColumns_wellFormed hcover (htables _ (by simp))
      · exact htables other (by simp [hmem])
  | skipped htable hindex => exact htables other hmem

/-- The tables of a run are well formed after every statement. -/
theorem run_wellFormed {script : List Json} (h : script.foldlM applyStatement [] = .ok tables) :
    ∀ table ∈ tables, table.WellFormed := by
  refine foldlM_invariant (fun tables => ∀ table ∈ tables, table.WellFormed) (by simp) ?_ h
  intro tables statement next htables hnext
  exact (applyStatement_eq_ok.1 hnext).wellFormed htables

/-- **Accepted scripts declare well-formed tables**, each with its unique indexes in front. -/
theorem tablesOf_wellFormed {tree : Json} (h : tablesOf tree = .ok tables) :
    ∀ table ∈ tables, table.WellFormed ∧ UniqueInFront table.indexes := by
  obtain ⟨script, left, -, hrun, rfl⟩ := tablesOf_eq_ok.1 h
  intro finished hfinished
  obtain ⟨table, hmem, rfl⟩ := List.mem_map.1 hfinished
  exact ⟨(run_wellFormed hrun table hmem).finalize, uniqueInFront_finalize table⟩

/-- A script with self-made and implicit keys, casts and indexes of both kinds. -/
theorem blogTree_wellFormed :
    tablesOf blogTree = .ok blogTables ∧
      ∀ table ∈ blogTables, table.WellFormed ∧ UniqueInFront table.indexes :=
  ⟨tablesOf_blogTree, tablesOf_wellFormed tablesOf_blogTree⟩

end EntSchema.ParseTree
