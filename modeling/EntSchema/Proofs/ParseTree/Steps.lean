import EntSchema.ParseTree.Script
import EntSchema.Proofs.Fold
import EntSchema.Proofs.Relational.Lookup

/-!
# The steps of a walk over a script

A script is applied in steps: a constraint to a column, a constraint to a table, an element to a
table, a statement to the tables. For each kind of step there is a relation here that lists what
it can do, with its guards, and an equivalence with the function that does it. A property of a
script is then shown case by case along these relations, and no proof opens the functions again.

The relations speak of success. Where errors are compared too, equations such as
`applyElement_of_column` and `changeTable_of_split` say which function does a step, its error
included.

## Main results

* `applyColumnConstraint_eq_ok`, `applyTableConstraint_eq_ok`, `applyElement_eq_ok`,
  `applyStatement_eq_ok` — a function succeeds with a result exactly when its relation holds.
* `changeTable_eq_ok` — an index statement changes one table, the first of its name.
* `tablesOf_eq_ok` — an accepted tree is a list of statements applied one after the other.
-/

namespace EntSchema.ParseTree

open Relational Fold

/-! ## Reading parts of a node -/

theorem require_eq_ok {node value : Json} {path : String} :
    require node path = .ok value ↔ node.get? path = some value := by
  rw [require]
  cases node.get? path with
  | none => simp
  | some found => simp

theorem requireText_eq_ok {node : Json} {path text : String} :
    requireText node path = .ok text ↔ node.nonEmptyText? path = some text := by
  rw [requireText]
  cases node.nonEmptyText? path with
  | none => simp
  | some found => simp

theorem ne_empty_of_nonEmptyText? {node : Json} {path text : String}
    (h : node.nonEmptyText? path = some text) : text ≠ "" := by
  obtain ⟨-, hne⟩ := Option.filter_eq_some_iff.1 h
  simpa using hne

theorem ne_empty_of_requireLastName {node : Json} {path name : String}
    (h : requireLastName node path = .ok name) : name ≠ "" := by
  rw [requireLastName] at h
  split at h
  · rename_i found hfound
    obtain ⟨-, hne⟩ := Option.filter_eq_some_iff.1 hfound
    cases h
    simpa using hne
  · cases h

theorem itemsAt_of_get? {node : Json} {path : String} {items : List Json}
    (h : node.get? path = some (.array items)) : itemsAt node path = items := by
  rw [itemsAt, h]
  rfl

/-- The relation that a statement is about. -/
def relation? (statement : Json) : Option String :=
  statement.nonEmptyText? "relation.RangeVar.relname"

theorem relationName_eq_ok {statement : Json} {name : String} :
    relationName statement = .ok name ↔ relation? statement = some name :=
  requireText_eq_ok

/-! ## Foreign keys -/

/-- The column that a foreign key points at when it names none. -/
def implicitTarget (name : String) (tables : List Table) : String :=
  match primaryColumn? name tables with
  | some column => column.name
  | none => implicitKey

/-- A foreign key points at the column that it names, and else at the implicit one. -/
theorem foreignKeyTarget_eq_ok {tables : List Table} {current : Table} {constraint : Json}
    {target : ForeignKey} :
    foreignKeyTarget tables current constraint = .ok target ↔
      constraint.nonEmptyText? "pktable.RangeVar.relname" = some target.table ∧
      ((∃ columns, constraint.get? "pk_attrs" = some columns ∧
          columns.nonEmptyText? "0.String.str" = some target.column) ∨
        (constraint.get? "pk_attrs" = none ∧
          target.column = implicitTarget target.table (current :: tables))) := by
  obtain ⟨table, column⟩ := target
  rw [foreignKeyTarget, bind_eq_ok]
  simp only [requireText_eq_ok]
  cases constraint.get? "pk_attrs" with
  | none =>
    simp only [implicitTarget]
    constructor
    · rintro ⟨name, hname, h⟩
      cases hkey : primaryColumn? name (current :: tables) with
      | none =>
        simp only [hkey, pure_eq_ok, ForeignKey.mk.injEq] at h
        obtain ⟨rfl, rfl⟩ := h
        simp [hname, hkey]
      | some key =>
        simp only [hkey, pure_eq_ok, ForeignKey.mk.injEq] at h
        obtain ⟨rfl, rfl⟩ := h
        simp [hname, hkey]
    · rintro ⟨hname, h⟩
      refine ⟨table, hname, ?_⟩
      cases hkey : primaryColumn? table (current :: tables) with
      | none => simp_all [pure_eq_ok]
      | some key => simp_all [pure_eq_ok]
  | some columns =>
    constructor
    · rintro ⟨name, hname, h⟩
      cases hkey : columns.nonEmptyText? "0.String.str" with
      | none => simp [hkey] at h
      | some key =>
        simp only [hkey, pure_eq_ok, ForeignKey.mk.injEq] at h
        obtain ⟨rfl, rfl⟩ := h
        simp [hname, hkey]
    · rintro ⟨hname, h⟩
      refine ⟨table, hname, ?_⟩
      simp_all [pure_eq_ok]

/-- The tables around a foreign key matter to it only when it names no column, and then only by
the implicit target of its own table. -/
theorem foreignKeyTarget_congr {tables others : List Table} {current other : Table}
    {constraint : Json}
    (h : constraint.get? "pk_attrs" = none →
      ∀ name, constraint.nonEmptyText? "pktable.RangeVar.relname" = some name →
        implicitTarget name (current :: tables) = implicitTarget name (other :: others)) :
    foreignKeyTarget tables current constraint = foreignKeyTarget others other constraint := by
  cases hname : constraint.nonEmptyText? "pktable.RangeVar.relname" with
  | none => rw [foreignKeyTarget, foreignKeyTarget, requireText, hname]; rfl
  | some name =>
    cases hcolumns : constraint.get? "pk_attrs" with
    | some columns => rw [foreignKeyTarget, foreignKeyTarget, hcolumns]
    | none =>
      have hthis : foreignKeyTarget tables current constraint =
          .ok ⟨name, implicitTarget name (current :: tables)⟩ :=
        foreignKeyTarget_eq_ok.2 ⟨hname, .inr ⟨hcolumns, rfl⟩⟩
      have hother : foreignKeyTarget others other constraint =
          .ok ⟨name, implicitTarget name (current :: tables)⟩ :=
        foreignKeyTarget_eq_ok.2 ⟨hname, .inr ⟨hcolumns, h hcolumns name hname⟩⟩
      rw [hthis, hother]

/-! ## Constraints of a column -/

section Column

variable {tables : List Table} {current : Table} {column changed : Column}

/-- What a constraint does to the column that it stands at. -/
inductive ColumnStep (tables : List Table) (current : Table) (constraint : Json)
    (column : Column) : Column → Prop
  | ignored (hkind : ConstraintKind.ofNode? constraint = none) :
      ColumnStep tables current constraint column column
  | notNull (hkind : ConstraintKind.ofNode? constraint = some .notNull) :
      ColumnStep tables current constraint column { column with isNotNull := true }
  | default {tag : String} {body : Json} {value : DefaultValue}
      (hkind : ConstraintKind.ofNode? constraint = some .default)
      (hexpr : requireTagged constraint "raw_expr" = .ok (tag, body))
      (hvalue : resolveDefault tag body = .ok value) :
      ColumnStep tables current constraint column
        (if value.isNull then column else { column with default := some value })
  | primaryKey (hkind : ConstraintKind.ofNode? constraint = some .primaryKey) :
      ColumnStep tables current constraint column column.markPrimary
  | unique (hkind : ConstraintKind.ofNode? constraint = some .unique) :
      ColumnStep tables current constraint column (column.markUnique true)
  | foreignKey {target : ForeignKey}
      (hkind : ConstraintKind.ofNode? constraint = some .foreignKey)
      (htarget : foreignKeyTarget tables current constraint = .ok target) :
      ColumnStep tables current constraint column { column with foreignKey := some target }

theorem applyColumnConstraint_eq_ok {element : Json} :
    applyColumnConstraint tables current column element = .ok changed ↔
      ∃ constraint, element.get? "Constraint" = some constraint ∧
        ColumnStep tables current constraint column changed := by
  rw [applyColumnConstraint, bind_eq_ok]
  simp only [require_eq_ok]
  refine exists_congr fun constraint => and_congr_right fun _ => ?_
  constructor
  · intro h
    split at h
    · rename_i hkind
      rw [← pure_eq_ok.1 h]
      exact .ignored hkind
    · rename_i hkind
      rw [← pure_eq_ok.1 h]
      exact .notNull hkind
    · rename_i hkind
      obtain ⟨⟨tag, body⟩, hexpr, h⟩ := bind_eq_ok.1 h
      obtain ⟨value, hvalue, h⟩ := bind_eq_ok.1 h
      rw [← pure_eq_ok.1 h]
      exact .default hkind hexpr hvalue
    · rename_i hkind
      rw [← pure_eq_ok.1 h]
      exact .primaryKey hkind
    · rename_i hkind
      rw [← pure_eq_ok.1 h]
      exact .unique hkind
    · rename_i hkind
      obtain ⟨target, htarget, h⟩ := bind_eq_ok.1 h
      rw [← pure_eq_ok.1 h]
      exact .foreignKey hkind htarget
  · intro h
    cases h with
    | ignored hkind => rw [hkind]; rfl
    | notNull hkind => rw [hkind]; rfl
    | default hkind hexpr hvalue =>
      rw [hkind]
      refine bind_eq_ok.2 ⟨_, hexpr, bind_eq_ok.2 ⟨_, hvalue, rfl⟩⟩
    | primaryKey hkind => rw [hkind]; rfl
    | unique hkind => rw [hkind]; rfl
    | foreignKey hkind htarget =>
      rw [hkind]
      exact bind_eq_ok.2 ⟨_, htarget, rfl⟩

theorem applyColumnConstraint_foreignKey {node constraint : Json}
    (hconstraint : node.get? "Constraint" = some constraint)
    (hkind : ConstraintKind.ofNode? constraint = some .foreignKey) :
    applyColumnConstraint tables table column node =
      (fun target => { column with foreignKey := some target }) <$>
        foreignKeyTarget tables table constraint := by
  rw [applyColumnConstraint, require_eq_ok.2 hconstraint]
  simp only [bind, Except.bind, hkind]
  cases foreignKeyTarget tables table constraint <;> rfl

/-- A column is read as its name and its type, and then by its constraints in order. -/
theorem readColumn_eq_ok {definition : Json} :
    readColumn tables current definition = .ok column ↔
      ∃ name node type, definition.nonEmptyText? "colname" = some name ∧
        definition.get? "typeName" = some node ∧ typeName node = .ok type ∧
        (itemsAt definition "constraints").foldlM (applyColumnConstraint tables current)
          { name, type } = .ok column := by
  simp only [readColumn, bind_eq_ok, requireText_eq_ok, require_eq_ok]
  constructor
  · rintro ⟨name, hname, node, hnode, type, htype, hfold⟩
    exact ⟨name, node, type, hname, hnode, htype, hfold⟩
  · rintro ⟨name, node, type, hname, hnode, htype, hfold⟩
    exact ⟨name, hname, node, hnode, type, htype, hfold⟩

end Column

/-! ## Constraints and indexes on named columns -/

section Table

variable {tables : List Table} {table changed : Table} {purpose : Purpose}

theorem changeColumn_eq_ok {name : String} {change : Column → Column} :
    changeColumn table name purpose change = .ok changed ↔
      table.changeColumn? name change = some changed := by
  rw [changeColumn]
  cases table.changeColumn? name change with
  | none => simp
  | some found => simp

theorem changeColumn_bind_eq_ok {name other : String} {change change' : Column → Column} :
    (changeColumn table name purpose change >>= (changeColumn · other purpose change')) =
        .ok changed ↔
      (table.changeColumn? name change).bind (·.changeColumn? other change') = some changed := by
  rw [bind_eq_ok, Option.bind_eq_some_iff]
  simp only [changeColumn_eq_ok]

/-- A new column is found under its name if the name is new. -/
theorem changeColumn_addColumn {column : Column} (hnew : column.name ∉ table.columnNames)
    (purpose : Purpose) (change : Column → Column) :
    changeColumn (table.addColumn column) column.name purpose change =
      .ok (table.addColumn (change column)) := by
  refine changeColumn_eq_ok.2 (Table.changeColumn?_of_split rfl ?_)
  intro earlier hmem hsame
  exact hnew (List.mem_map.2 ⟨earlier, hmem, hsame⟩)

/-- The index entry of a constraint or an index statement: only several columns make one. -/
def severalIndex? (columns : List String) (isUnique : Bool) : Option Index :=
  if 2 ≤ columns.length then some { columns, isUnique } else none

/-- Covering columns marks a single one and makes an index of several. -/
theorem coverColumns_eq_ok {columns : List String} {isUnique : Bool} :
    coverColumns table columns isUnique purpose = .ok changed ↔
      (columns = [] ∧ changed = table) ∨
      (∃ name, columns = [name] ∧
        table.changeColumn? name (·.markUnique isUnique) = some changed) ∨
      (2 ≤ columns.length ∧ changed = table.addIndex { columns, isUnique }) := by
  match columns with
  | [] => simp [coverColumns, eq_comm]
  | [name] => simp [coverColumns, changeColumn_eq_ok]
  | first :: second :: rest => simp [coverColumns, eq_comm]

/-- What a table constraint does to the table of its statement. -/
inductive ConstraintStep (tables : List Table) (table : Table) (constraint : Json) :
    Table → Prop
  | ignored (hkind : ConstraintKind.ofNode? constraint ∈ [none, some .notNull, some .default]) :
      ConstraintStep tables table constraint table
  | primaryKey {changed : Table}
      (hkind : ConstraintKind.ofNode? constraint = some .primaryKey)
      (hkeys : (stringsAt constraint "keys").foldlM
        (fun table key => changeColumn table key .setPrimaryKey (·.markPrimary)) table
          = .ok changed) :
      ConstraintStep tables table constraint changed
  | unique {changed : Table} (hkind : ConstraintKind.ofNode? constraint = some .unique)
      (hcover : coverColumns table (stringsAt constraint "keys") true .setUniqueConstraint
        = .ok changed) :
      ConstraintStep tables table constraint changed
  | foreignKey {target : ForeignKey} {name : String} {changed : Table}
      (hkind : ConstraintKind.ofNode? constraint = some .foreignKey)
      (htarget : foreignKeyTarget tables table constraint = .ok target)
      (hname : constraint.nonEmptyText? "fk_attrs.0.String.str" = some name)
      (hchange : table.changeColumn? name ({ · with foreignKey := some target })
        = some changed) :
      ConstraintStep tables table constraint changed

theorem applyTableConstraint_eq_ok {constraint : Json} :
    applyTableConstraint tables table constraint = .ok changed ↔
      ConstraintStep tables table constraint changed := by
  rw [applyTableConstraint]
  constructor
  · intro h
    split at h
    · rename_i hkind
      exact .primaryKey hkind h
    · rename_i hkind
      obtain ⟨target, htarget, h⟩ := bind_eq_ok.1 h
      obtain ⟨name, hname, h⟩ := bind_eq_ok.1 h
      exact .foreignKey hkind htarget (requireText_eq_ok.1 hname) (changeColumn_eq_ok.1 h)
    · rename_i hkind
      exact .unique hkind h
    all_goals
      rename_i hkind
      cases h
      exact .ignored (by simp [hkind])
  · intro h
    cases h with
    | ignored hkind =>
      simp only [List.mem_cons, List.not_mem_nil, or_false] at hkind
      rcases hkind with hkind | hkind | hkind <;> rw [hkind]
    | primaryKey hkind hkeys => rw [hkind]; exact hkeys
    | unique hkind hcover => rw [hkind]; exact hcover
    | foreignKey hkind htarget hname hchange =>
      rw [hkind]
      exact bind_eq_ok.2 ⟨_, htarget, bind_eq_ok.2
        ⟨_, requireText_eq_ok.2 hname, changeColumn_eq_ok.2 hchange⟩⟩

theorem applyTableConstraint_foreignKey {constraint : Json} {name : String}
    (hkind : ConstraintKind.ofNode? constraint = some .foreignKey)
    (hname : constraint.nonEmptyText? "fk_attrs.0.String.str" = some name) :
    applyTableConstraint tables table constraint =
      foreignKeyTarget tables table constraint >>= fun target =>
        changeColumn table name .setForeignKey ({ · with foreignKey := some target }) := by
  rw [applyTableConstraint, hkind, requireText_eq_ok.2 hname]
  rfl

/-! ## Elements of a table statement -/

/-- What an element of its statement does to a table. -/
inductive ElementStep (tables : List Table) (table : Table) (element : Json) : Table → Prop
  | column {body : Json} {column : Column} (htag : element.tagged? = some ("ColumnDef", body))
      (hcolumn : readColumn tables table body = .ok column) :
      ElementStep tables table element (table.addColumn column)
  | constraint {body : Json} {changed : Table}
      (htag : element.tagged? = some ("Constraint", body))
      (hstep : ConstraintStep tables table body changed) :
      ElementStep tables table element changed
  | ignored (hcolumn : ∀ body, element.tagged? ≠ some ("ColumnDef", body))
      (hconstraint : ∀ body, element.tagged? ≠ some ("Constraint", body)) :
      ElementStep tables table element table

theorem applyElement_eq_ok {element : Json} :
    applyElement tables table element = .ok changed ↔
      ElementStep tables table element changed := by
  rw [applyElement]
  constructor
  · intro h
    split at h
    · rename_i body htag
      obtain ⟨column, hcolumn, h⟩ := bind_eq_ok.1 h
      rw [← pure_eq_ok.1 h]
      exact .column htag hcolumn
    · rename_i body htag
      exact .constraint htag (applyTableConstraint_eq_ok.1 h)
    · rename_i hcolumn hconstraint
      cases h
      exact .ignored hcolumn hconstraint
  · intro h
    cases h with
    | column htag hcolumn =>
      rw [htag]
      exact bind_eq_ok.2 ⟨_, hcolumn, rfl⟩
    | constraint htag hstep =>
      rw [htag]
      exact applyTableConstraint_eq_ok.2 hstep
    | ignored hcolumn hconstraint =>
      split
      · rename_i body htag
        exact absurd htag (hcolumn body)
      · rename_i body htag
        exact absurd htag (hconstraint body)
      · rfl

theorem applyElement_of_column {element body : Json}
    (htag : element.tagged? = some ("ColumnDef", body)) :
    applyElement tables table element = table.addColumn <$> readColumn tables table body := by
  rw [applyElement, htag]
  exact bind_pure_comp _ _

theorem applyElement_of_constraint {element body : Json}
    (htag : element.tagged? = some ("Constraint", body)) :
    applyElement tables table element = applyTableConstraint tables table body := by
  rw [applyElement, htag]
  rfl

/-- A table is created empty under its name, and then by its elements in order. -/
theorem createTable_eq_ok {statement : Json} :
    createTable tables statement = .ok table ↔
      ∃ name, relation? statement = some name ∧
        (itemsAt statement "tableElts").foldlM (applyElement tables) { name } = .ok table := by
  simp only [createTable, bind_eq_ok, relationName_eq_ok]

end Table

/-! ## Statements -/

section Statement

variable {tables changed : List Table}

section Split

variable {name : String} {change : Table → Except ParseError Table} {table : Table}

theorem changeTable_cons_of_eq (hname : table.name = name) (rest : List Table) :
    changeTable name change (table :: rest) = (· :: rest) <$> change table := by
  rw [changeTable, if_pos hname]
  exact bind_pure_comp _ _

theorem changeTable_cons_of_ne (hname : table.name ≠ name) (rest : List Table) :
    changeTable name change (table :: rest) = (table :: ·) <$> changeTable name change rest := by
  rw [changeTable, if_neg hname]
  exact bind_pure_comp _ _

/-- Where the tables are split at the first one of a name, that one is changed, its error
included. -/
theorem changeTable_of_split {front back : List Table}
    (hfront : ∀ earlier ∈ front, earlier.name ≠ name) (hname : table.name = name) :
    changeTable name change (front ++ table :: back) =
      (front ++ · :: back) <$> change table := by
  induction front with
  | nil => exact changeTable_cons_of_eq hname back
  | cons earlier rest ih =>
    obtain ⟨hearlier, hrest⟩ := List.forall_mem_cons.1 hfront
    rw [List.cons_append, changeTable_cons_of_ne hearlier, ih hrest]
    cases change table <;> rfl

end Split

/-- Changing the first table of a name splits the tables at that table. -/
theorem changeTable_eq_ok {name : String} {change : Table → Except ParseError Table} :
    changeTable name change tables = .ok changed ↔
      ∃ before table after next, tables = before ++ table :: after ∧
        (∀ earlier ∈ before, earlier.name ≠ name) ∧ table.name = name ∧
        change table = .ok next ∧ changed = before ++ next :: after := by
  induction tables generalizing changed with
  | nil => simp [changeTable]
  | cons first rest ih =>
    by_cases hname : first.name = name
    · rw [changeTable_cons_of_eq hname, map_eq_ok]
      constructor
      · rintro ⟨next, hnext, h⟩
        exact ⟨[], first, rest, next, rfl, by simp, hname, hnext, h.symm⟩
      · rintro ⟨before, table, after, next, hsplit, hbefore, -, hnext, rfl⟩
        cases before with
        | nil =>
          cases hsplit
          exact ⟨next, hnext, rfl⟩
        | cons earlier before =>
          cases hsplit
          exact absurd hname (hbefore first (by simp))
    · rw [changeTable_cons_of_ne hname, map_eq_ok]
      simp only [ih]
      constructor
      · rintro ⟨tail, ⟨before, table, after, next, rfl, hbefore, htable, hnext, rfl⟩, rfl⟩
        refine ⟨first :: before, table, after, next, rfl, ?_, htable, hnext, rfl⟩
        intro earlier hmem
        rcases List.mem_cons.1 hmem with rfl | hmem
        · exact hname
        · exact hbefore earlier hmem
      · rintro ⟨before, table, after, next, hsplit, hbefore, htable, hnext, rfl⟩
        cases before with
        | nil =>
          cases hsplit
          exact absurd htable hname
        | cons earlier before =>
          cases hsplit
          exact ⟨before ++ next :: after, ⟨before, table, after, next, rfl,
            fun earlier hmem => hbefore earlier (by simp [hmem]), htable, hnext, rfl⟩, rfl⟩

theorem addStatementIndex_eq_ok {statement : Json} {table next : Table} :
    addStatementIndex statement table = .ok next ↔
      indexColumns statement ≠ [] ∧
        coverColumns table (indexColumns statement) (isUniqueIndex statement) .createIndex
          = .ok next := by
  rw [addStatementIndex]
  by_cases hempty : indexColumns statement = []
  · simp [hempty]
  · simp [hempty]

theorem addStatementIndex_of_named {statement : Json} (hnamed : indexColumns statement ≠ [])
    (table : Table) :
    addStatementIndex statement table =
      coverColumns table (indexColumns statement) (isUniqueIndex statement) .createIndex := by
  simp [addStatementIndex, hnamed]

theorem createIndex_of_relation {statement : Json} {name : String}
    (hname : relation? statement = some name) (tables : List Table) :
    createIndex tables statement = changeTable name (addStatementIndex statement) tables := by
  rw [createIndex, relationName_eq_ok.2 hname]
  rfl

/-- What a statement does to the tables. -/
inductive StatementStep (tables : List Table) (statement : Json) : List Table → Prop
  | createTable {body : Json} {table : Table}
      (htag : statement.tagged? = some ("CreateStmt", body))
      (htable : createTable tables body = .ok table) :
      StatementStep tables statement (tables ++ [table])
  | createIndex {body : Json} {name : String} {before after : List Table} {table next : Table}
      (htag : statement.tagged? = some ("IndexStmt", body))
      (hrelation : relation? body = some name)
      (hsplit : tables = before ++ table :: after)
      (hbefore : ∀ earlier ∈ before, earlier.name ≠ name)
      (hname : table.name = name)
      (hnamed : indexColumns body ≠ [])
      (hcover : coverColumns table (indexColumns body) (isUniqueIndex body) .createIndex
        = .ok next) :
      StatementStep tables statement (before ++ next :: after)
  | skipped (htable : ∀ body, statement.tagged? ≠ some ("CreateStmt", body))
      (hindex : ∀ body, statement.tagged? ≠ some ("IndexStmt", body)) :
      StatementStep tables statement tables

theorem applyStatement_eq_ok {statement : Json} :
    applyStatement tables statement = .ok changed ↔
      StatementStep tables statement changed := by
  rw [applyStatement]
  constructor
  · intro h
    split at h
    · rename_i body htag
      obtain ⟨table, htable, h⟩ := bind_eq_ok.1 h
      rw [← pure_eq_ok.1 h]
      exact .createTable htag htable
    · rename_i body htag
      obtain ⟨name, hrelation, h⟩ := bind_eq_ok.1 h
      obtain ⟨before, table, after, next, hsplit, hbefore, hname, hnext, rfl⟩ :=
        changeTable_eq_ok.1 h
      obtain ⟨hnamed, hcover⟩ := addStatementIndex_eq_ok.1 hnext
      exact .createIndex htag (relationName_eq_ok.1 hrelation) hsplit hbefore hname hnamed hcover
    · rename_i htable hindex
      cases h
      exact .skipped htable hindex
  · intro h
    cases h with
    | createTable htag htable =>
      rw [htag]
      exact bind_eq_ok.2 ⟨_, htable, rfl⟩
    | createIndex htag hrelation hsplit hbefore hname hnamed hcover =>
      rw [htag]
      refine bind_eq_ok.2 ⟨_, relationName_eq_ok.2 hrelation, changeTable_eq_ok.2 ?_⟩
      exact ⟨_, _, _, _, hsplit, hbefore, hname, addStatementIndex_eq_ok.2 ⟨hnamed, hcover⟩, rfl⟩
    | skipped htable hindex =>
      split
      · rename_i body htag
        exact absurd htag (htable body)
      · rename_i body htag
        exact absurd htag (hindex body)
      · rfl

theorem applyStatement_of_createTable {statement body : Json}
    (htag : statement.tagged? = some ("CreateStmt", body)) :
    applyStatement tables statement = (tables ++ [·]) <$> createTable tables body := by
  rw [applyStatement, htag]
  exact bind_pure_comp _ _

theorem applyStatement_of_createIndex {statement body : Json}
    (htag : statement.tagged? = some ("IndexStmt", body)) :
    applyStatement tables statement = createIndex tables body := by
  rw [applyStatement, htag]
  rfl

end Statement

/-! ## Scripts -/

/-- An accepted tree is a script whose statements apply one after the other; its tables are the
finished ones. -/
theorem tablesOf_eq_ok {tree : Json} {tables : List Table} :
    tablesOf tree = .ok tables ↔
      ∃ script left, statements tree = .ok script ∧
        script.foldlM applyStatement [] = .ok left ∧ tables = left.map (·.finalize) := by
  simp only [tablesOf, bind_eq_ok, pure_eq_ok]
  constructor
  · rintro ⟨script, hscript, left, hleft, htables⟩
    exact ⟨script, left, hscript, hleft, htables.symm⟩
  · rintro ⟨script, left, hscript, hleft, htables⟩
    exact ⟨script, hscript, left, hleft, htables.symm⟩

end EntSchema.ParseTree
