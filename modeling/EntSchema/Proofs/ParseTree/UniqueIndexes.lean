import EntSchema.Proofs.ParseTree.Nodes
import EntSchema.Proofs.ParseTree.Steps
import EntSchema.Proofs.Split

/-!
# The columns that a unique index marks

A unique index statement that names a single column marks that column as unique. It counts the
elements with a name. An expression has none, so an index over a column and an expression counts
as an index over the column alone, and the column is marked although rows may repeat its value.

`TurnsUnique` is about places: some column, wherever it stands, is not unique before a statement
and unique after it. An index statement changes one table at its place and one column at its place,
so two uses of `somewhere_split` find the column again.

## Main results

* `StatementStep.turnsUnique_iff` — when an index statement marks a column.
* `MarksColumn.single_iff_named` — a statement that marks a column has a single element exactly
  when all of its elements have names.
* `tablesOf_turnsUnique` — both, for every index statement of an accepted script.
* `mixedNode_turnsUnique` — a column marked by an index over two elements.
-/

namespace EntSchema.ParseTree

open Relational Fold Split

/-! ## Two lists place by place -/

section Somewhere

variable {α : Type} {R : α → α → Prop}

/-- At some place the elements of two lists are related. -/
def Somewhere (R : α → α → Prop) (before after : List α) : Prop :=
  ∃ (place : Nat) (old new : α), before[place]? = some old ∧ after[place]? = some new ∧ R old new

theorem not_somewhere_self (hirrefl : ∀ x, ¬R x x) (elements : List α) :
    ¬Somewhere R elements elements := by
  rintro ⟨place, old, new, hold, hnew, hrelated⟩
  rw [hold, Option.some.injEq] at hnew
  subst hnew
  exact hirrefl old hrelated

/-- Lists that differ in one element are related there or nowhere. -/
theorem somewhere_split (hirrefl : ∀ x, ¬R x x) {front back : List α} {old new : α} :
    Somewhere R (front ++ old :: back) (front ++ new :: back) ↔ R old new := by
  constructor
  · rintro ⟨place, first, second, hfirst, hsecond, hrelated⟩
    by_cases hplace : place = front.length
    · subst hplace
      rw [getElem?_split_self, Option.some.injEq] at hfirst hsecond
      rwa [hfirst, hsecond]
    · -- Away from that place the two lists are the same.
      rw [getElem?_split_of_ne hplace, hsecond, Option.some.injEq] at hfirst
      subst hfirst
      exact absurd hrelated (hirrefl second)
  · intro hrelated
    exact ⟨front.length, old, new, getElem?_split_self front back old,
      getElem?_split_self front back new, hrelated⟩

end Somewhere

/-! ## One table -/

/-- The column is not unique before and unique after. -/
def ColumnTurns (before after : Column) : Prop :=
  before.isUnique = false ∧ after.isUnique = true

/-- Some column of the table is not unique before and unique after. -/
def TableTurns (before after : Table) : Prop :=
  Somewhere ColumnTurns before.columns after.columns

/-- Some column of some table is not unique before and unique after. -/
def TurnsUnique (before after : List Table) : Prop :=
  Somewhere TableTurns before after

theorem not_columnTurns_self (column : Column) : ¬ColumnTurns column column := by
  rintro ⟨hbefore, hafter⟩
  rw [hbefore] at hafter
  cases hafter

theorem not_tableTurns_self (table : Table) : ¬TableTurns table table :=
  not_somewhere_self not_columnTurns_self table.columns

theorem columnTurns_markUnique {column : Column} {isUnique : Bool} :
    ColumnTurns column (column.markUnique isUnique) ↔
      isUnique = true ∧ column.isUnique = false := by
  unfold ColumnTurns Column.markUnique
  cases column.isUnique <;> cases isUnique <;> simp

/-- Covering columns marks a column when the index is unique and has no other column. -/
theorem coverColumns_turns_iff {table changed : Table} {columns : List String} {isUnique : Bool}
    {purpose : Purpose} (h : coverColumns table columns isUnique purpose = .ok changed) :
    TableTurns table changed ↔
      isUnique = true ∧ ∃ name column, columns = [name] ∧ table.column? name = some column ∧
        column.isUnique = false := by
  rcases coverColumns_eq_ok.1 h with ⟨hnone, hsame⟩ | ⟨name, hname, hchange⟩ | ⟨hseveral, hadd⟩
  · subst hnone hsame
    constructor
    · intro hturns
      exact absurd hturns (not_tableTurns_self changed)
    · rintro ⟨-, name, column, hname, -, -⟩
      cases hname
  · subst hname
    obtain ⟨front, column, back, hsplit, hfront, hcolumn, rfl⟩ :=
      Table.changeColumn?_eq_some hchange
    have hfound : table.column? name = some column :=
      List.find?_eq_some_iff_append.2
        ⟨by simpa using hcolumn, front, back, hsplit, by simpa using hfront⟩
    unfold TableTurns
    rw [hsplit, somewhere_split not_columnTurns_self, columnTurns_markUnique]
    simp [hfound]
  · subst hadd
    constructor
    · intro hturns
      exact absurd hturns (not_tableTurns_self table)
    · rintro ⟨-, name, column, hname, -, -⟩
      rw [hname, List.length_singleton] at hseveral
      omega

/-! ## One index statement -/

/-- What makes an index statement mark a column: it is unique, it names one column alone, and the
first column of that name, in the first table of its relation, is not unique yet. -/
def MarksColumn (tables : List Table) (body : Json) : Prop :=
  isUniqueIndex body = true ∧ ∃ relation name table column,
    relation? body = some relation ∧ indexColumns body = [name] ∧
    tables.find? (·.name = relation) = some table ∧ table.column? name = some column ∧
    column.isUnique = false

/-- The element of an index has a name: it is a column and no expression. -/
def NamedElement (element : Json) : Prop :=
  ((element.get? "IndexElem.name").bind Json.text?).isSome = true

instance (element : Json) : Decidable (NamedElement element) :=
  inferInstanceAs (Decidable (_ = true))

section Statement

variable {tables next : List Table} {statement body : Json}

/-- **An index statement marks a column** exactly when `MarksColumn` says so. -/
theorem StatementStep.turnsUnique_iff (h : StatementStep tables statement next)
    (htag : statement.tagged? = some ("IndexStmt", body)) :
    TurnsUnique tables next ↔ MarksColumn tables body := by
  cases h with
  | createTable hcreate htable =>
    rw [htag] at hcreate
    exact absurd hcreate (by simp)
  | skipped htable hindex => exact absurd htag (hindex body)
  | @createIndex other relation front back table changed hother hrelation hsplit hfront hname
      hnamed hcover =>
    rw [htag, Option.some.injEq, Prod.mk.injEq] at hother
    obtain ⟨-, rfl⟩ := hother
    have hfound : tables.find? (·.name = relation) = some table :=
      List.find?_eq_some_iff_append.2
        ⟨by simpa using hname, front, back, hsplit, by simpa using hfront⟩
    have hplace : TurnsUnique tables (front ++ changed :: back) ↔ TableTurns table changed := by
      unfold TurnsUnique
      rw [hsplit, somewhere_split not_tableTurns_self]
    rw [hplace, coverColumns_turns_iff hcover]
    constructor
    · rintro ⟨hunique, name, column, hcolumns, hcolumn, hflag⟩
      exact ⟨hunique, relation, name, table, column, hrelation, hcolumns, hfound, hcolumn, hflag⟩
    · rintro ⟨hunique, relation', name, table', column, hrelation', hcolumns, hfound', hcolumn,
        hflag⟩
      rw [hrelation, Option.some.injEq] at hrelation'
      subst hrelation'
      rw [hfound, Option.some.injEq] at hfound'
      subst hfound'
      exact ⟨hunique, name, column, hcolumns, hcolumn, hflag⟩

/-- A statement that marks a column has a single element exactly when all of its elements have
names. The elements without a name are not counted, so there may be any number of them. -/
theorem MarksColumn.single_iff_named (h : MarksColumn tables body) :
    (itemsAt body "indexParams").length = 1 ↔
      ∀ element ∈ itemsAt body "indexParams", NamedElement element := by
  obtain ⟨-, -, name, -, -, -, hcolumns, -, -, -⟩ := h
  have hlength : (indexColumns body).length = (itemsAt body "indexParams").length ↔
      ∀ element ∈ itemsAt body "indexParams", NamedElement element :=
    List.filterMap_length_eq_length
  rw [hcolumns, List.length_singleton] at hlength
  rw [← hlength]
  exact eq_comm

end Statement

/-! ## Every index statement of a script -/

/--
**What the index statements of an accepted script mark.** Each of them is applied to some tables
and leads to some tables. It marks a column exactly when it is unique and names one column alone
that is not unique yet; and when it does, the index is on that column alone exactly when none of
its elements is an expression.
-/
theorem tablesOf_turnsUnique {tree : Json} {tables : List Table} (h : tablesOf tree = .ok tables) :
    ∃ script, statements tree = .ok script ∧
      ∀ earlier statement later body, script = earlier ++ statement :: later →
        statement.tagged? = some ("IndexStmt", body) →
        ∃ before after, earlier.foldlM applyStatement [] = .ok before ∧
          applyStatement before statement = .ok after ∧
          (TurnsUnique before after ↔ MarksColumn before body) ∧
          (TurnsUnique before after →
            ((itemsAt body "indexParams").length = 1 ↔
              ∀ element ∈ itemsAt body "indexParams", NamedElement element)) := by
  obtain ⟨script, left, hscript, hrun, -⟩ := tablesOf_eq_ok.1 h
  refine ⟨script, hscript, ?_⟩
  intro earlier statement later body hsplit htag
  rw [hsplit] at hrun
  obtain ⟨before, after, hbefore, hafter, -⟩ := foldlM_at_eq_ok.1 hrun
  have hiff := (applyStatement_eq_ok.1 hafter).turnsUnique_iff htag
  refine ⟨before, after, hbefore, hafter, hiff, ?_⟩
  intro hturns
  exact (hiff.1 hturns).single_iff_named

/-- In the blog, the last statement and the tables before and after it. -/
theorem blogTree_turnsUnique :
    ∃ statement body before after, blogScript = blogScript.take 4 ++ [statement] ∧
      statement.tagged? = some ("IndexStmt", body) ∧
      (blogScript.take 4).foldlM applyStatement [] = .ok before ∧
      applyStatement before statement = .ok after ∧
      (TurnsUnique before after ↔ MarksColumn before body) ∧
      (TurnsUnique before after → (itemsAt body "indexParams").length = 1) := by
  obtain ⟨script, hscript, hall⟩ := tablesOf_turnsUnique tablesOf_blogTree
  have hblog : blogScript = script := by
    rw [blogTree, statements_scriptNode, Except.ok.injEq] at hscript
    exact hscript
  obtain ⟨before, after, hbefore, hafter, hiff, hsingle⟩ := hall (blogScript.take 4)
    (indexNode "users" [indexElement "nick"] true) [] _ hblog.symm rfl
  refine ⟨_, _, before, after, rfl, rfl, hbefore, hafter, hiff, ?_⟩
  intro hturns
  rw [hsingle hturns]
  decide +kernel

/-- Accounts of an email and a handle. -/
def accountNode : Json :=
  tableNode "account" [columnNode "email" "text" [], columnNode "handle" "text" []]

/-- A unique index over the email and the handle in lower case. -/
def mixedNode : Json :=
  indexNode "account" [indexElement "email", callElement "lower" "handle"] true

/-- The table of `accountNode`, with the email marked or not. -/
def accountTable (isUnique : Bool) : Table :=
  { name := "account"
    columns := [{ name := "email", type := "text", isUnique }, { name := "handle", type := "text" }] }

/-- **An index over a column and an expression marks the column**, though accounts may share an
email when their handles differ. -/
theorem mixedNode_turnsUnique :
    tablesOf (scriptNode [accountNode, mixedNode]) = .ok [accountTable true] ∧
      ∃ body, mixedNode.tagged? = some ("IndexStmt", body) ∧
        [accountNode].foldlM applyStatement [] = .ok [accountTable false] ∧
        applyStatement [accountTable false] mixedNode = .ok [accountTable true] ∧
        TurnsUnique [accountTable false] [accountTable true] ∧
        (itemsAt body "indexParams").length = 2 := by
  refine ⟨?_, _, rfl, ?_, ?_, ?_, ?_⟩
  · decide +kernel
  · decide +kernel
  · decide +kernel
  · exact ⟨0, _, _, rfl, rfl, 0, _, _, rfl, rfl, rfl, rfl⟩
  · decide +kernel

end EntSchema.ParseTree
