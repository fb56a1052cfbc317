import EntSchema.Proofs.ParseTree.Accounting
import EntSchema.Proofs.ParseTree.Finished

/-!
# Two index statements next to each other

Two index statements change two tables, or two columns of one table, or a column and the indexes,
or the indexes twice. In all these cases but the last one their order does not matter, and in the
last one it does not matter to the finished table if one index is unique and the other one is not.
What is left are two statements of one class (`SameClass`).

The order does matter to the error when both fail, so the two runs are compared by `Alike` for any
two errors.

## Main results

* `changeTable_comm` — changes of two tables.
* `coverColumns_comm` — two changes of one table.
* `createIndex_comm` — two index statements in both orders.
* `createIndex_twice` — an index statement over a single column, and the same once more.
-/

namespace EntSchema.ParseTree

open Relational Fold

/-! ## Changing two tables -/

/-- A change that leaves the name of the table. -/
def KeepsName (change : Table → Except ParseError Table) : Prop :=
  ∀ table changed, change table = .ok changed → changed.name = table.name

section Tables

variable {name other : String} {change change' : Table → Except ParseError Table} {table : Table}

/-- A table of a third name is passed over by both changes. -/
theorem changeTable_bind_cons (hname : table.name ≠ name) (hother : table.name ≠ other)
    (rest : List Table) :
    changeTable name change (table :: rest) >>= changeTable other change' =
      (table :: ·) <$> (changeTable name change rest >>= changeTable other change') := by
  rw [changeTable_cons_of_ne hname]
  cases changeTable name change rest with
  | error cause => rfl
  | ok changed => exact changeTable_cons_of_ne hother changed

/-- Changing the first table of a name twice is changing it once, by both changes. -/
theorem changeTable_bind (hkeep : KeepsName change) (tables : List Table) :
    changeTable name change tables >>= changeTable name change' =
      changeTable name (fun table => change table >>= change') tables := by
  induction tables with
  | nil => rfl
  | cons first rest ih =>
    by_cases hname : first.name = name
    · rw [changeTable_cons_of_eq hname, changeTable_cons_of_eq hname]
      cases hfirst : change first with
      | error cause => rfl
      | ok changed =>
        have hchanged : changed.name = name := (hkeep first changed hfirst).trans hname
        exact changeTable_cons_of_eq hchanged rest
    · rw [changeTable_bind_cons hname hname, changeTable_cons_of_ne hname, ih]

/-- The first change hits the first table, and the other one a later table. -/
theorem changeTable_comm_head (hkeep : KeepsName change) (hname : table.name = name)
    (hother : table.name ≠ other) (rest : List Table) :
    Alike (fun _ _ => True) Eq
      (changeTable name change (table :: rest) >>= changeTable other change')
      (changeTable other change' (table :: rest) >>= changeTable name change) := by
  have hleft : (· :: rest) <$> change table >>= changeTable other change' =
      change table >>= fun changed => (changed :: ·) <$> changeTable other change' rest := by
    cases hchange : change table with
    | error cause => rfl
    | ok changed =>
      have hchanged : changed.name ≠ other := by
        rw [hkeep table changed hchange]
        exact hother
      exact changeTable_cons_of_ne hchanged rest
  have hright : (table :: ·) <$> changeTable other change' rest >>= changeTable name change =
      changeTable other change' rest >>= fun later => (· :: later) <$> change table := by
    cases changeTable other change' rest with
    | error cause => rfl
    | ok later => exact changeTable_cons_of_eq hname later
  rw [changeTable_cons_of_eq hname, changeTable_cons_of_ne hother, hleft, hright]
  exact alike_swap (change table) (changeTable other change' rest) List.cons

/-- **Changing tables of two names** does not depend on the order. -/
theorem changeTable_comm (hne : name ≠ other) (hkeep : KeepsName change)
    (hkeep' : KeepsName change') (tables : List Table) :
    Alike (fun _ _ => True) Eq (changeTable name change tables >>= changeTable other change')
      (changeTable other change' tables >>= changeTable name change) := by
  -- The order matters only where a table of one of the names is found, and there the other change
  -- goes on to the rest.
  induction tables with
  | nil => exact .error trivial
  | cons first rest ih =>
    by_cases hname : first.name = name
    · have hother : first.name ≠ other := by
        rw [hname]
        exact hne
      exact changeTable_comm_head hkeep hname hother rest
    · by_cases hother : first.name = other
      · exact (changeTable_comm_head hkeep' hother hname rest).symm.mono (fun _ _ h => h)
          fun _ _ h => h.symm
      · rw [changeTable_bind_cons hname hother, changeTable_bind_cons hother hname]
        refine ih.map ?_
        intro left right h
        rw [h]

/-- Changes of one table that end alike, up to the order of its indexes, do so within the tables. -/
theorem changeTable_alike_finished
    (hchange : ∀ table, Alike (fun _ _ => True) (fun left right => left.finalize = right.finalize)
      (change table) (change' table)) (tables : List Table) :
    Alike (fun _ _ => True) (fun left right => finished left = finished right)
      (changeTable name change tables) (changeTable name change' tables) := by
  induction tables with
  | nil => exact .error trivial
  | cons first rest ih =>
    by_cases hname : first.name = name
    · rw [changeTable_cons_of_eq hname, changeTable_cons_of_eq hname]
      refine (hchange first).map ?_
      intro left right h
      rw [finished_cons, finished_cons, h]
    · rw [changeTable_cons_of_ne hname, changeTable_cons_of_ne hname]
      refine ih.map ?_
      intro left right h
      rw [finished_cons, finished_cons, h]

end Tables

/-! ## Changing one table twice -/

section Table

variable {body body' : Json}

theorem changeColumn_addIndex (table : Table) (index : Index) (name : String) (purpose : Purpose)
    (change : Column → Column) :
    changeColumn (table.addIndex index) name purpose change =
      (·.addIndex index) <$> changeColumn table name purpose change := by
  have hindexes : (table.addIndex index).changeColumn? name change =
      (table.changeColumn? name change).map ({ · with indexes := table.indexes ++ [index] }) :=
    table.changeColumn?_setIndexes _
  rw [changeColumn, changeColumn, hindexes]
  cases hchange : table.changeColumn? name change with
  | none => rfl
  | some changed =>
    rw [← Table.indexes_of_changeColumn? hchange]
    rfl

/-- Changing the first column of a name twice is changing it once, by both changes. -/
theorem changeColumn_bind {table : Table} {name : String} {purpose : Purpose}
    {change change' : Column → Column} (hkeep : ∀ column, (change column).name = column.name) :
    changeColumn table name purpose change >>= (changeColumn · name purpose change') =
      changeColumn table name purpose (fun column => change' (change column)) := by
  rw [changeColumn, changeColumn, ← Table.changeColumn?_bind table hkeep]
  cases hchange : table.changeColumn? name change with
  | none => rfl
  | some changed =>
    rw [← Table.name_of_changeColumn? hchange]
    rfl

/-- Two marks on columns do not depend on their order. -/
theorem changeColumn_comm (table : Table) (name other : String) (unique unique' : Bool)
    (purpose : Purpose) :
    Alike (fun _ _ => True) Eq
      (changeColumn table name purpose (·.markUnique unique) >>=
        (changeColumn · other purpose (·.markUnique unique')))
      (changeColumn table other purpose (·.markUnique unique') >>=
        (changeColumn · name purpose (·.markUnique unique))) := by
  have hcomm : (table.changeColumn? name (·.markUnique unique)).bind
      (·.changeColumn? other (·.markUnique unique')) =
        (table.changeColumn? other (·.markUnique unique')).bind
          (·.changeColumn? name (·.markUnique unique)) :=
    table.changeColumn?_comm (fun _ => rfl) (fun _ => rfl)
      fun column => column.markUnique_comm unique' unique
  apply alike_of_success
  · intro changed hchanged
    refine ⟨changed, ?_, rfl⟩
    rw [changeColumn_bind_eq_ok, ← hcomm]
    exact changeColumn_bind_eq_ok.1 hchanged
  · intro changed hchanged
    refine ⟨changed, ?_⟩
    rw [changeColumn_bind_eq_ok, hcomm]
    exact changeColumn_bind_eq_ok.1 hchanged

/-- A mark on a column and an index entry do not depend on their order. -/
theorem coverColumns_single_comm {columns : List String} (hseveral : 2 ≤ columns.length)
    (table : Table) (name : String) (isUnique isUnique' : Bool) (purpose : Purpose) :
    coverColumns table [name] isUnique purpose >>= (coverColumns · columns isUnique' purpose) =
      coverColumns table columns isUnique' purpose >>=
        (coverColumns · [name] isUnique purpose) := by
  have hadd : ∀ known : Table, coverColumns known columns isUnique' purpose =
      .ok (known.addIndex { columns, isUnique := isUnique' }) :=
    fun known => coverColumns_eq_ok.2 (.inr (.inr ⟨hseveral, rfl⟩))
  simp only [hadd]
  show (changeColumn table name purpose _ >>= fun changed => pure (changed.addIndex _)) =
    changeColumn (table.addIndex _) name purpose _
  rw [changeColumn_addIndex]
  exact bind_pure_comp _ _

/-- **Covering columns twice** does not depend on the order, once the table is finished, except
where two index entries of one class are added. -/
theorem coverColumns_comm {columns columns' : List String} {isUnique isUnique' : Bool}
    (table : Table) (purpose : Purpose)
    (h : 2 ≤ columns.length → 2 ≤ columns'.length → isUnique ≠ isUnique') :
    Alike (fun _ _ => True) (fun left right => left.finalize = right.finalize)
      (coverColumns table columns isUnique purpose >>= (coverColumns · columns' isUnique' purpose))
      (coverColumns table columns' isUnique' purpose >>=
        (coverColumns · columns isUnique purpose)) := by
  match columns, columns' with
  | [], columns' =>
    exact .of_eq (fun _ => trivial) (fun _ => rfl) (bind_pure _).symm
  | first :: rest, [] =>
    exact .of_eq (fun _ => trivial) (fun _ => rfl) (bind_pure _)
  | [name], [other] =>
    refine (changeColumn_comm table name other isUnique isUnique' purpose).mono (fun _ _ h => h) ?_
    intro left right heq
    rw [heq]
  | [name], first :: second :: rest =>
    exact .of_eq (fun _ => trivial) (fun _ => rfl)
      (coverColumns_single_comm (by simp) table name isUnique isUnique' purpose)
  | first :: second :: rest, [name] =>
    exact .of_eq (fun _ => trivial) (fun _ => rfl)
      (coverColumns_single_comm (by simp) table name isUnique' isUnique purpose).symm
  | first :: second :: rest, first' :: second' :: rest' =>
    have hne : isUnique ≠ isUnique' := h (by simp) (by simp)
    refine .ok ?_
    simp only [Table.finalize, Table.addIndex, List.append_assoc, List.singleton_append]
    rw [uniqueFirst_swap_of_ne hne]

theorem addStatementIndex_keepsName (body : Json) : KeepsName (addStatementIndex body) := by
  intro table changed hchanged
  obtain ⟨-, hcover⟩ := addStatementIndex_eq_ok.1 hchanged
  exact (coverColumns_marks hcover).name

theorem addStatementIndex_of_entry {index : Index}
    (hentry : severalIndex? (indexColumns body) (isUniqueIndex body) = some index)
    (table : Table) : addStatementIndex body table = .ok (table.addIndex index) := by
  obtain ⟨hseveral, hindex⟩ := Option.ite_none_right_eq_some.1 hentry
  have hnamed : indexColumns body ≠ [] := by
    intro hnone
    simp [hnone] at hseveral
  rw [addStatementIndex_of_named hnamed]
  refine coverColumns_eq_ok.2 (.inr (.inr ⟨hseveral, ?_⟩))
  rw [Option.some.inj hindex]

/-- **Two index statements on one table** do not depend on their order, once the table is
finished, except where both add an entry of one class. -/
theorem addStatementIndex_comm
    (h : 2 ≤ (indexColumns body).length → 2 ≤ (indexColumns body').length →
      isUniqueIndex body ≠ isUniqueIndex body') (table : Table) :
    Alike (fun _ _ => True) (fun left right => left.finalize = right.finalize)
      (addStatementIndex body table >>= addStatementIndex body')
      (addStatementIndex body' table >>= addStatementIndex body) := by
  by_cases hnamed : indexColumns body ≠ [] ∧ indexColumns body' ≠ []
  · have hbody := funext (addStatementIndex_of_named hnamed.1)
    have hbody' := funext (addStatementIndex_of_named hnamed.2)
    rw [hbody, hbody']
    exact coverColumns_comm table .createIndex h
  · exact alike_of_guards (addStatementIndex body) (addStatementIndex body')
      (fun _ _ h => (addStatementIndex_eq_ok.1 h).1)
      (fun _ _ h => (addStatementIndex_eq_ok.1 h).1) hnamed table

/-- An index statement with at most one column does nothing the second time. -/
theorem addStatementIndex_twice (hsingle : (indexColumns body).length ≤ 1) (table : Table) :
    addStatementIndex body table >>= addStatementIndex body = addStatementIndex body table := by
  match hcolumns : indexColumns body with
  | [] => simp [addStatementIndex, hcolumns, bind, Except.bind]
  | [name] =>
    have hadd : addStatementIndex body =
        (changeColumn · name .createIndex (·.markUnique (isUniqueIndex body))) := by
      funext known
      rw [addStatementIndex_of_named (by simp [hcolumns]), hcolumns]
      rfl
    have hkeep : ∀ column : Column,
        (column.markUnique (isUniqueIndex body)).name = column.name := fun _ => rfl
    rw [hadd, changeColumn_bind hkeep]
    simp only [Column.markUnique_markUnique]
  | first :: second :: rest => simp [hcolumns] at hsingle

end Table

/-! ## Two index statements -/

/-- Two index statements are about one table, both over several columns, and both unique or both
not. -/
structure SameClass (body body' : Json) (name : String) (index index' : Index) : Prop where
  relation : relation? body = some name
  relation' : relation? body' = some name
  entry : severalIndex? (indexColumns body) (isUniqueIndex body) = some index
  entry' : severalIndex? (indexColumns body') (isUniqueIndex body') = some index'
  unique : index.isUnique = index'.isUnique

section Statements

variable {tables : List Table} {body body' : Json}

theorem relation?_of_createIndex {changed : List Table} (h : createIndex tables body = .ok changed) :
    ∃ name, relation? body = some name := by
  obtain ⟨name, hname, -⟩ := bind_eq_ok.1 h
  exact ⟨name, relationName_eq_ok.1 hname⟩

/-- **Two index statements** lead to the same finished tables in both orders, unless they are of
one class. -/
theorem createIndex_comm
    (hclass : ¬∃ name index index', SameClass body body' name index index')
    (tables : List Table) :
    Alike (fun _ _ => True) (fun left right => finished left = finished right)
      (createIndex tables body >>= (createIndex · body'))
      (createIndex tables body' >>= (createIndex · body)) := by
  by_cases hnamed : (∃ name, relation? body = some name) ∧ ∃ name, relation? body' = some name
  · obtain ⟨⟨name, hname⟩, other, hother⟩ := hnamed
    simp only [createIndex_of_relation hname, createIndex_of_relation hother]
    by_cases hsame : name = other
    · subst hsame
      rw [changeTable_bind (addStatementIndex_keepsName body),
        changeTable_bind (addStatementIndex_keepsName body')]
      apply changeTable_alike_finished
      apply addStatementIndex_comm
      intro hseveral hseveral' hunique
      exact hclass ⟨name, _, _, hname, hother, if_pos hseveral, if_pos hseveral', hunique⟩
    · refine (changeTable_comm hsame (addStatementIndex_keepsName body)
        (addStatementIndex_keepsName body') tables).mono (fun _ _ h => h) ?_
      intro left right heq
      rw [heq]
  · exact alike_of_guards (createIndex · body) (createIndex · body')
      (fun _ _ h => relation?_of_createIndex h) (fun _ _ h => relation?_of_createIndex h) hnamed
      tables

/-- An index statement with at most one column does nothing the second time. -/
theorem createIndex_twice (hsingle : (indexColumns body).length ≤ 1) (tables : List Table) :
    createIndex tables body >>= (createIndex · body) = createIndex tables body := by
  cases hrelation : relationName body with
  | error cause =>
    rw [createIndex, hrelation]
    rfl
  | ok name =>
    simp only [createIndex_of_relation (relationName_eq_ok.1 hrelation)]
    rw [changeTable_bind (addStatementIndex_keepsName body),
      funext (addStatementIndex_twice hsingle)]

end Statements

end EntSchema.ParseTree
