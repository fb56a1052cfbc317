import EntSchema.Proofs.ParseTree.Finished
import EntSchema.Proofs.ParseTree.Nodes

/-!
# What one more statement changes

The tables of a script are finished, and one more statement is put behind it. `FrameStep` says what
that does to the finished tables, and everything that it does not mention stays: a table statement
appends one table, an index statement changes one column's mark or inserts one index in the first
table of its relation, and any other statement does nothing.

## Main results

* `frameStep_iff` — one step of the walk, seen on finished tables.
* `tablesOf_snoc` — a script with one more statement behind it, against the script before.
-/

namespace EntSchema.ParseTree

open Relational Fold

/-- What one more statement does to finished tables. -/
inductive FrameStep (tables : List Table) (statement : Json) : List Table → Prop
  /-- A table comes last. -/
  | created {body : Json} {table : Table}
      (htag : statement.tagged? = some ("CreateStmt", body))
      (htable : createTable tables body = .ok table) :
      FrameStep tables statement (tables ++ [table.finalize])
  /-- In the first table of the relation, the first column of the only name is marked. -/
  | marked {body : Json} {front back : List Table} {table : Table}
      {before after : List Column} {column : Column}
      (htag : statement.tagged? = some ("IndexStmt", body))
      (hsplit : tables = front ++ table :: back)
      (hrelation : relation? body = some table.name)
      (hfront : ∀ earlier ∈ front, earlier.name ≠ table.name)
      (hcolumns : table.columns = before ++ column :: after)
      (hbefore : ∀ earlier ∈ before, earlier.name ≠ column.name)
      (honly : indexColumns body = [column.name]) :
      FrameStep tables statement (front ++ { table with
        columns := before ++
          { column with isUnique := column.isUnique || isUniqueIndex body } :: after } :: back)
  /-- In the first table of the relation, an index over several names is inserted. -/
  | indexed {body : Json} {front back : List Table} {table : Table} {indexes : List Index}
      (htag : statement.tagged? = some ("IndexStmt", body))
      (hsplit : tables = front ++ table :: back)
      (hrelation : relation? body = some table.name)
      (hfront : ∀ earlier ∈ front, earlier.name ≠ table.name)
      (hseveral : 2 ≤ (indexColumns body).length)
      (hindexes : Inserted { columns := indexColumns body, isUnique := isUniqueIndex body }
        table.indexes indexes) :
      FrameStep tables statement (front ++ { table with indexes } :: back)
  /-- The statement is of another kind, or it is no statement at all. -/
  | skipped (htable : ∀ body, statement.tagged? ≠ some ("CreateStmt", body))
      (hindex : ∀ body, statement.tagged? ≠ some ("IndexStmt", body)) :
      FrameStep tables statement tables

section Step

variable {tables next : List Table} {statement : Json}

/-- Finished tables stay finished around a table that is changed. -/
theorem finished_split {front back : List Table} {table : Table}
    (hfinished : finished (front ++ table :: back) = front ++ table :: back) (changed : Table) :
    table.finalize = table ∧
      finished (front ++ changed :: back) = front ++ changed.finalize :: back := by
  rw [finished_append, finished_cons] at hfinished
  obtain ⟨hfront, hrest⟩ := List.append_inj hfinished (by simp [finished])
  obtain ⟨htable, hback⟩ := List.cons.inj hrest
  refine ⟨htable, ?_⟩
  rw [finished_append, finished_cons, hfront, hback]

/-- What is said of the finished tables is what some step of the walk does to them. -/
theorem FrameStep.exists_step (h : FrameStep tables statement next)
    (hfinished : finished tables = tables) :
    ∃ left, StatementStep tables statement left ∧ finished left = next := by
  cases h with
  | created htag htable =>
    refine ⟨_, .createTable htag htable, ?_⟩
    rw [finished_append, hfinished]
    rfl
  | @marked body front back table before after column htag hsplit hrelation hfront hcolumns
      hbefore honly =>
    have hcover : coverColumns table (indexColumns body) (isUniqueIndex body) .createIndex =
        .ok { table with
          columns := before ++ column.markUnique (isUniqueIndex body) :: after } :=
      coverColumns_eq_ok.2 (.inr (.inl ⟨_, honly, Table.changeColumn?_of_split hcolumns hbefore⟩))
    refine ⟨_, .createIndex htag hrelation hsplit hfront rfl (by simp [honly]) hcover, ?_⟩
    rw [hsplit] at hfinished
    obtain ⟨htable, hstays⟩ := finished_split hfinished _
    rw [hstays, Table.finalize_setColumns htable]
    rfl
  | @indexed body front back table indexes htag hsplit hrelation hfront hseveral hindexes =>
    have hcover : coverColumns table (indexColumns body) (isUniqueIndex body) .createIndex =
        .ok (table.addIndex { columns := indexColumns body, isUnique := isUniqueIndex body }) :=
      coverColumns_eq_ok.2 (.inr (.inr ⟨hseveral, rfl⟩))
    have hnamed : indexColumns body ≠ [] := by
      intro hnone
      simp [hnone] at hseveral
    refine ⟨_, .createIndex htag hrelation hsplit hfront rfl hnamed hcover, ?_⟩
    rw [hsplit] at hfinished
    obtain ⟨htable, hstays⟩ := finished_split hfinished _
    have hordered := Table.finalize_eq_self_iff.1 htable
    rw [hstays, (inserted_iff hordered).1 hindexes]
    rfl
  | skipped htable hindex => exact ⟨tables, .skipped htable hindex, hfinished⟩

/-- A step of the walk does to finished tables what is said of them, and nothing else. -/
theorem StatementStep.frameStep {left : List Table} (h : StatementStep tables statement left)
    (hfinished : finished tables = tables) : FrameStep tables statement (finished left) := by
  cases h with
  | createTable htag htable =>
    rw [finished_append, hfinished]
    exact .created htag htable
  | @createIndex body name front back table changed htag hrelation hsplit hfront hname hnamed
      hcover =>
    subst hname
    have hsplit' := hfinished
    rw [hsplit] at hsplit'
    obtain ⟨htable, hstays⟩ := finished_split hsplit' changed
    rw [hstays]
    rcases coverColumns_eq_ok.1 hcover with ⟨hnone, -⟩ | ⟨only, honly, hchange⟩ | ⟨hseveral, rfl⟩
    · exact absurd hnone hnamed
    · obtain ⟨before, column, after, hcolumns, hbefore, rfl, rfl⟩ :=
        Table.changeColumn?_eq_some hchange
      rw [Table.finalize_setColumns htable]
      exact .marked htag hsplit hrelation hfront hcolumns hbefore honly
    · have hordered := Table.finalize_eq_self_iff.1 htable
      have hinserted : Inserted { columns := indexColumns body, isUnique := isUniqueIndex body }
          table.indexes (uniqueFirst (table.indexes ++ [_])) :=
        (inserted_iff hordered).2 rfl
      have hindexed := FrameStep.indexed htag hsplit hrelation hfront hseveral hinserted
      exact hindexed
  | skipped htable hindex =>
    rw [hfinished]
    exact .skipped htable hindex

/-- **One step, seen on finished tables**: what is finished stays, and what the statement adds is
put in its place at once. -/
theorem frameStep_iff (hfinished : finished tables = tables) :
    FrameStep tables statement next ↔
      ∃ left, StatementStep tables statement left ∧ finished left = next := by
  constructor
  · intro h
    exact h.exists_step hfinished
  · rintro ⟨left, hstep, rfl⟩
    exact hstep.frameStep hfinished

end Step

/-! ## One more statement behind a script -/

/--
**A script with one more statement behind it**: the statement is applied to the finished tables
of the script before, as if they had never been finished, and what it does to them is a single
`FrameStep`.
-/
theorem tablesOf_snoc {elements : List Json} {element statement : Json} {tables : List Table}
    (hstatement : element.get? "RawStmt.stmt" = some statement)
    (hbefore : tablesOf (.array elements) = .ok tables) :
    tablesOf (.array (elements ++ [element])) = finished <$> applyStatement tables statement ∧
      ∀ next, tablesOf (.array (elements ++ [element])) = .ok next ↔
        FrameStep tables statement next := by
  have hscript : statements (.array [element]) = .ok [statement] := statements_cons hstatement []
  have hstep : tablesOf (.array (elements ++ [element])) =
      finished <$> applyStatement tables statement := by
    rw [tablesOf_append hscript, hbefore]
    exact bind_pure (applyFinished tables statement)
  refine ⟨hstep, ?_⟩
  intro next
  rw [hstep, map_eq_ok, frameStep_iff (finished_of_tablesOf hbefore)]
  simp only [applyStatement_eq_ok]

/-- A unique index over the titles and slugs of posts. -/
def slugIndex : Json := indexNode "posts" [indexElement "title", indexElement "slug"] true

/-- The blog without that index. -/
def plainBlog : List Json := blogScript.eraseIdx 3

/-- The tables of `plainBlog`. -/
def plainTables : List Table :=
  blogTables.modify 1 fun posts => { posts with indexes := posts.indexes.eraseIdx 1 }

/-- In the blog the index comes to stand between a unique index and one that is not. -/
theorem plainBlog_snoc :
    tablesOf (.array (plainBlog.map rawNode)) = .ok plainTables ∧
      tablesOf (.array (plainBlog.map rawNode ++ [rawNode slugIndex])) = .ok blogTables ∧
      FrameStep plainTables slugIndex blogTables := by
  have hplain : tablesOf (.array (plainBlog.map rawNode)) = .ok plainTables := by
    decide +kernel
  obtain ⟨hstep, hiff⟩ := tablesOf_snoc (require_eq_ok.1 (require_rawStmt slugIndex)) hplain
  have hblog : tablesOf (.array (plainBlog.map rawNode ++ [rawNode slugIndex])) =
      .ok blogTables := by
    rw [hstep]
    decide +kernel
  exact ⟨hplain, hblog, (hiff blogTables).1 hblog⟩

end EntSchema.ParseTree
