import EntSchema.Proofs.ParseTree.Accounting
import EntSchema.Proofs.ParseTree.Shape

/-!
# Names that are not declared

A script is read in a single pass, so a constraint or an index may only name what stands in front
of it. This file says exactly when a script is refused for a name. What matters is the first place
where a name is not declared, once all statements in front of it are applied, and within a table
statement all elements in front of it; whatever else is wrong behind that place does not matter.

Most parts of the walk look no name up, so they are refused for the shape of a node only
(`OnlyShape`). What is left are the four places where a name is looked up: three kinds of
constraints, and index statements.

What is declared is said from the script alone, by the column definitions in front of a constraint
and by the table statements in front of an index statement.

## Main results

* `applyTableConstraint_eq_stray` — which constraints name a column that is not there.
* `createTable_eq_stray`, `createIndex_eq_stray` — the same for the two kinds of statements.
* `tablesOf_unknown_iff` — exactly when a script is refused for a table or a column.
-/

namespace EntSchema.ParseTree

open Relational Fold

/-! ## Columns that are looked up -/

section Columns

variable {tables : List Table} {table changed : Table} {purpose : Purpose} {cause : ParseError}

theorem changeColumn_eq_error {name : String} {change : Column → Column} :
    changeColumn table name purpose change = .error cause ↔
      name ∉ table.columnNames ∧ cause = .unknownColumn table.name name purpose := by
  have hfound : (∃ changed, table.changeColumn? name change = some changed) ↔
      name ∈ table.columnNames := Table.exists_changeColumn?_iff
  rw [← hfound, changeColumn]
  cases table.changeColumn? name change with
  | none => simp [eq_comm]
  | some found => simp

theorem coverColumns_eq_error {columns : List String} {isUnique : Bool} :
    coverColumns table columns isUnique purpose = .error cause ↔
      ∃ name, columns = [name] ∧ name ∉ table.columnNames ∧
        cause = .unknownColumn table.name name purpose := by
  match columns with
  | [] => simp [coverColumns]
  | [name] => simp [coverColumns, changeColumn_eq_error]
  | first :: second :: rest => simp [coverColumns]

/-- Keys can be marked exactly when all of them are declared. -/
theorem exists_markPrimary_iff {keys : List String} :
    (∃ changed, keys.foldlM
      (fun table key => changeColumn table key purpose (·.markPrimary)) table = .ok changed) ↔
        ∀ key ∈ keys, key ∈ table.columnNames := by
  constructor
  · rintro ⟨changed, h⟩
    exact (markPrimary_marks h).primary_mem
  · intro hkeys
    cases h : keys.foldlM
        (fun table key => changeColumn table key purpose (·.markPrimary)) table with
    | ok changed => exact ⟨changed, rfl⟩
    | error cause =>
      obtain ⟨front, known, key, hcomes, hcause⟩ := foldlM_eq_error.1 h
      obtain ⟨back, rfl⟩ := hcomes.split
      obtain ⟨hkey, -⟩ := changeColumn_eq_error.1 hcause
      rw [(markPrimary_marks hcomes.reached).columnNames] at hkey
      exact absurd (hkeys key (by simp)) hkey

/-- Marking keys fails at the first of them that is not declared. -/
theorem markPrimary_eq_error {keys : List String} :
    keys.foldlM (fun table key => changeColumn table key purpose (·.markPrimary)) table
        = .error cause ↔
      ∃ front key back, keys = front ++ key :: back ∧ (∀ other ∈ front, other ∈ table.columnNames) ∧
        key ∉ table.columnNames ∧ cause = .unknownColumn table.name key purpose := by
  rw [foldlM_eq_error]
  constructor
  · rintro ⟨front, known, key, hcomes, hcause⟩
    obtain ⟨back, hsplit⟩ := hcomes.split
    obtain ⟨hkey, hcause⟩ := changeColumn_eq_error.1 hcause
    have hmarks := markPrimary_marks hcomes.reached
    rw [hmarks.columnNames] at hkey
    rw [hmarks.name] at hcause
    exact ⟨front, key, back, hsplit, hmarks.primary_mem, hkey, hcause⟩
  · rintro ⟨front, key, back, hsplit, hfront, hkey, hcause⟩
    obtain ⟨known, hknown⟩ := exists_markPrimary_iff.2 hfront
    have hmarks := markPrimary_marks hknown
    have herror : changeColumn known key purpose (·.markPrimary) = .error cause := by
      refine changeColumn_eq_error.2 ⟨?_, ?_⟩
      · rw [hmarks.columnNames]
        exact hkey
      · rw [hmarks.name]
        exact hcause
    exact ⟨front, known, key, ⟨⟨back, hsplit⟩, hknown⟩, herror⟩

end Columns

/-! ## Constraints beside the columns -/

section Constraint

variable {tables : List Table} {current table : Table} {constraint : Json} {cause : ParseError}

/-- A foreign key says where it points: it names a table, and a column too if it has columns. -/
structure TargetStated (constraint : Json) : Prop where
  table : ∃ name, constraint.nonEmptyText? "pktable.RangeVar.relname" = some name
  column : ∀ columns, constraint.get? "pk_attrs" = some columns →
    ∃ name, columns.nonEmptyText? "0.String.str" = some name

theorem exists_foreignKeyTarget_iff :
    (∃ target, foreignKeyTarget tables current constraint = .ok target) ↔
      TargetStated constraint := by
  constructor
  · rintro ⟨target, htarget⟩
    obtain ⟨htable, hcolumn⟩ := foreignKeyTarget_eq_ok.1 htarget
    refine ⟨⟨target.table, htable⟩, ?_⟩
    intro columns hcolumns
    rcases hcolumn with ⟨others, hothers, hname⟩ | ⟨hnone, -⟩
    · rw [hcolumns, Option.some.injEq] at hothers
      subst hothers
      exact ⟨target.column, hname⟩
    · rw [hcolumns] at hnone
      cases hnone
  · rintro ⟨⟨name, hname⟩, hcolumn⟩
    cases hcolumns : constraint.get? "pk_attrs" with
    | none =>
      exact ⟨⟨name, implicitTarget name (current :: tables)⟩,
        foreignKeyTarget_eq_ok.2 ⟨hname, .inr ⟨hcolumns, rfl⟩⟩⟩
    | some columns =>
      obtain ⟨column, hfound⟩ := hcolumn columns hcolumns
      exact ⟨⟨name, column⟩,
        foreignKeyTarget_eq_ok.2 ⟨hname, .inl ⟨columns, hcolumns, hfound⟩⟩⟩

/--
A constraint beside the columns names a column that is not among the declared ones: it is the
first such key of a primary key, the first column of a foreign key that says where it points, or
the only key of a unique constraint.
-/
inductive StrayConstraint (declared : List String) (constraint : Json) (column : String) :
    Purpose → Prop
  | primaryKey {front back : List String}
      (hkind : ConstraintKind.ofNode? constraint = some .primaryKey)
      (hkeys : stringsAt constraint "keys" = front ++ column :: back)
      (hfront : ∀ key ∈ front, key ∈ declared) (hcolumn : column ∉ declared) :
      StrayConstraint declared constraint column .setPrimaryKey
  | foreignKey (hkind : ConstraintKind.ofNode? constraint = some .foreignKey)
      (htarget : TargetStated constraint)
      (hname : constraint.nonEmptyText? "fk_attrs.0.String.str" = some column)
      (hcolumn : column ∉ declared) :
      StrayConstraint declared constraint column .setForeignKey
  | unique (hkind : ConstraintKind.ofNode? constraint = some .unique)
      (honly : stringsAt constraint "keys" = [column]) (hcolumn : column ∉ declared) :
      StrayConstraint declared constraint column .setUniqueConstraint

/-- **A constraint is refused for a name** exactly when it names a column that is not there. -/
theorem applyTableConstraint_eq_stray (hcause : cause.AboutName) :
    applyTableConstraint tables table constraint = .error cause ↔
      ∃ column purpose, cause = .unknownColumn table.name column purpose ∧
        StrayConstraint table.columnNames constraint column purpose := by
  rw [applyTableConstraint]
  constructor
  · intro h
    split at h
    · rename_i hkind
      obtain ⟨front, key, back, hkeys, hfront, hkey, hsame⟩ := markPrimary_eq_error.1 h
      exact ⟨key, _, hsame, .primaryKey hkind hkeys hfront hkey⟩
    · rename_i hkind
      obtain ⟨target, htarget, h⟩ :=
        ((onlyShape_foreignKeyTarget constraint).bind_eq_error hcause).1 h
      obtain ⟨column, hname, h⟩ := (onlyShape_requireText.bind_eq_error hcause).1 h
      obtain ⟨hcolumn, hsame⟩ := changeColumn_eq_error.1 h
      have hstated : TargetStated constraint := exists_foreignKeyTarget_iff.1 ⟨target, htarget⟩
      exact ⟨column, _, hsame, .foreignKey hkind hstated (requireText_eq_ok.1 hname) hcolumn⟩
    · rename_i hkind
      obtain ⟨column, honly, hcolumn, hsame⟩ := coverColumns_eq_error.1 h
      exact ⟨column, _, hsame, .unique hkind honly hcolumn⟩
    · cases h
    · cases h
    · cases h
  · rintro ⟨column, purpose, hsame, hstray⟩
    cases hstray with
    | primaryKey hkind hkeys hfront hcolumn =>
      rw [hkind]
      exact markPrimary_eq_error.2 ⟨_, _, _, hkeys, hfront, hcolumn, hsame⟩
    | foreignKey hkind htarget hname hcolumn =>
      rw [hkind]
      have hfound : ∃ target, foreignKeyTarget tables table constraint = .ok target :=
        exists_foreignKeyTarget_iff.2 htarget
      obtain ⟨target, htarget⟩ := hfound
      refine bind_eq_error.2 (.inr ⟨target, htarget, bind_eq_error.2 (.inr ⟨column, ?_, ?_⟩)⟩)
      · exact requireText_eq_ok.2 hname
      · exact changeColumn_eq_error.2 ⟨hcolumn, hsame⟩
    | unique hkind honly hcolumn =>
      rw [hkind]
      exact coverColumns_eq_error.2 ⟨column, honly, hcolumn, hsame⟩

end Constraint

/-! ## Table statements -/

section Table

variable {tables : List Table} {table : Table} {cause : ParseError}

/-- An element is refused for a name when it is a constraint that is. -/
theorem applyElement_eq_stray {element : Json} (hcause : cause.AboutName) :
    applyElement tables table element = .error cause ↔
      ∃ constraint column purpose, body? "Constraint" element = some constraint ∧
        cause = .unknownColumn table.name column purpose ∧
        StrayConstraint table.columnNames constraint column purpose := by
  constructor
  · intro h
    rw [applyElement] at h
    split at h
    · obtain ⟨column, -, hcolumn⟩ := ((onlyShape_readColumn _).bind_eq_error hcause).1 h
      cases hcolumn
    · rename_i constraint htag
      obtain ⟨column, purpose, hsame, hstray⟩ := (applyTableConstraint_eq_stray hcause).1 h
      exact ⟨constraint, column, purpose, body?_eq_some.2 htag, hsame, hstray⟩
    · cases h
  · rintro ⟨constraint, column, purpose, hbody, hsame, hstray⟩
    rw [applyElement_of_constraint (body?_eq_some.1 hbody)]
    exact (applyTableConstraint_eq_stray hcause).2 ⟨column, purpose, hsame, hstray⟩

/-- A table statement has a constraint on a column that is not defined in front of it. All elements
in front of the constraint can be applied. -/
structure StrayElement (tables : List Table) (statement : Json) (name column : String)
    (purpose : Purpose) : Prop where
  relation : relation? statement = some name
  comes : ∃ before known element constraint,
    ComesTo (applyElement tables) { name } (itemsAt statement "tableElts") before known element ∧
      body? "Constraint" element = some constraint ∧
      StrayConstraint (definedNames before) constraint column purpose

/-- **A table statement is refused for a name** exactly when it comes to a constraint on a column
that is not defined in front of it. -/
theorem createTable_eq_stray {statement : Json} (hcause : cause.AboutName) :
    createTable tables statement = .error cause ↔
      ∃ name column purpose, cause = .unknownColumn name column purpose ∧
        StrayElement tables statement name column purpose := by
  rw [createTable]
  constructor
  · intro h
    obtain ⟨name, hname, hrun⟩ := (onlyShape_requireText.bind_eq_error hcause).1 h
    obtain ⟨before, known, element, hcomes, helement⟩ := foldlM_eq_error.1 hrun
    obtain ⟨hknown, hbuilt⟩ := run_built hcomes.reached
    obtain ⟨constraint, column, purpose, hbody, hsame, hstray⟩ :=
      (applyElement_eq_stray hcause).1 helement
    rw [hbuilt.stated.columnNames] at hstray
    rw [hknown] at hsame
    refine ⟨name, column, purpose, hsame, requireText_eq_ok.1 hname, ?_⟩
    exact ⟨before, known, element, constraint, hcomes, hbody, hstray⟩
  · rintro ⟨name, column, purpose, hsame, hname, before, known, element, constraint, hcomes, hbody,
      hstray⟩
    obtain ⟨hknown, hbuilt⟩ := run_built hcomes.reached
    rw [← hbuilt.stated.columnNames] at hstray
    rw [← hknown] at hsame
    have helement : applyElement tables known element = .error cause :=
      (applyElement_eq_stray hcause).2 ⟨constraint, column, purpose, hbody, hsame, hstray⟩
    refine bind_eq_error.2 (.inr ⟨name, requireText_eq_ok.2 hname, ?_⟩)
    exact foldlM_eq_error.2 ⟨before, known, element, hcomes, helement⟩

end Table

/-! ## Index statements -/

section Index

variable {tables : List Table} {cause : ParseError}

/-- Changing a table fails when there is none of the name, or else as the change of the first one
does. -/
theorem changeTable_eq_error {name : String} {change : Table → Except ParseError Table} :
    changeTable name change tables = .error cause ↔
      ((∀ table ∈ tables, table.name ≠ name) ∧ cause = .unknownTable name .createIndex) ∨
        ∃ table, tables.find? (·.name = name) = some table ∧ change table = .error cause := by
  induction tables with
  | nil => simp [changeTable, eq_comm]
  | cons first rest ih =>
    by_cases hname : first.name = name
    · rw [changeTable_cons_of_eq hname, map_eq_error]
      simp [hname]
    · rw [changeTable_cons_of_ne hname, map_eq_error, ih]
      simp [hname]

/-- **An index statement is refused for a name** when there is no table of its relation, or when
its only column is no column of that table. -/
theorem createIndex_eq_stray {statement : Json} (hcause : cause.AboutName) :
    createIndex tables statement = .error cause ↔
      ∃ name, relation? statement = some name ∧
        (((∀ table ∈ tables, table.name ≠ name) ∧ cause = .unknownTable name .createIndex) ∨
          ∃ table column, tables.find? (·.name = name) = some table ∧
            indexColumns statement = [column] ∧ column ∉ table.columnNames ∧
            cause = .unknownColumn name column .createIndex) := by
  have hindex : ∀ table, addStatementIndex statement table = .error cause ↔
      ∃ column, indexColumns statement = [column] ∧ column ∉ table.columnNames ∧
        cause = .unknownColumn table.name column .createIndex := by
    intro table
    rw [addStatementIndex]
    by_cases hempty : indexColumns statement = []
    · have hshape : ParseError.missingField "indexParams.IndexElem.name" ≠ cause := by
        rintro rfl
        exact hcause
      simp [hempty, hshape]
    · simp [hempty, coverColumns_eq_error]
  rw [createIndex, relationName, onlyShape_requireText.bind_eq_error hcause]
  refine exists_congr fun name => ?_
  rw [requireText_eq_ok, changeTable_eq_error]
  refine and_congr_right fun _ => or_congr_right (exists_congr fun table => ?_)
  rw [hindex]
  constructor
  · rintro ⟨hfound, column, honly, hcolumn, hsame⟩
    have hname : table.name = name := by simpa using List.find?_some hfound
    rw [hname] at hsame
    exact ⟨column, hfound, honly, hcolumn, hsame⟩
  · rintro ⟨column, hfound, honly, hcolumn, hsame⟩
    have hname : table.name = name := by simpa using List.find?_some hfound
    rw [← hname] at hsame
    exact ⟨hfound, column, honly, hcolumn, hsame⟩

end Index

/-! ## Scripts -/

section Script

variable {script earlier : List Json} {tables : List Table} {statement : Json} {cause : ParseError}

theorem applyStatement_eq_error :
    applyStatement tables statement = .error cause ↔
      (∃ body, statement.tagged? = some ("CreateStmt", body) ∧
        createTable tables body = .error cause) ∨
      ∃ body, statement.tagged? = some ("IndexStmt", body) ∧
        createIndex tables body = .error cause := by
  rw [applyStatement]
  split
  · rename_i body htag
    simp [htag, bind_eq_error, pure, Except.pure]
  · rename_i body htag
    simp [htag]
  · rename_i htable hindex
    constructor
    · intro h
      cases h
    · rintro (⟨body, htag, -⟩ | ⟨body, htag, -⟩)
      · exact absurd htag (htable body)
      · exact absurd htag (hindex body)

/-- An index statement names a single column, and the table statement that creates its table
defines no column of that name. -/
structure StrayIndex (earlier : List Json) (statement : Json) (name column : String) : Prop where
  relation : relation? statement = some name
  only : indexColumns statement = [column]
  first : ∃ create, (creating name earlier).head? = some create ∧
    column ∉ definedNames (itemsAt create "tableElts")

/-- **A statement is refused for a table** when it is an index statement and no table statement
in front of it creates a table of that name. -/
theorem applyStatement_eq_unknownTable (h : Agrees earlier tables) {name : String}
    {purpose : Purpose} :
    applyStatement tables statement = .error (.unknownTable name purpose) ↔
      purpose = .createIndex ∧ ∃ body, statement.tagged? = some ("IndexStmt", body) ∧
        relation? body = some name ∧ name ∉ createdNames earlier := by
  have hcause : (ParseError.unknownTable name purpose).AboutName := trivial
  rw [applyStatement_eq_error]
  constructor
  · rintro (⟨body, htag, hcreate⟩ | ⟨body, htag, hindex⟩)
    · obtain ⟨other, column, purpose', hsame, -⟩ := (createTable_eq_stray hcause).1 hcreate
      cases hsame
    · obtain ⟨other, hrelation, hstray⟩ := (createIndex_eq_stray hcause).1 hindex
      rcases hstray with ⟨hnone, hsame⟩ | ⟨table, column, -, -, -, hsame⟩
      · cases hsame
        exact ⟨rfl, body, htag, hrelation, (h.forall_name_ne_iff name).1 hnone⟩
      · cases hsame
  · rintro ⟨rfl, body, htag, hrelation, hnone⟩
    have hnone' := (h.forall_name_ne_iff name).2 hnone
    have hindex : createIndex tables body = .error (.unknownTable name .createIndex) :=
      (createIndex_eq_stray hcause).2 ⟨name, hrelation, .inl ⟨hnone', rfl⟩⟩
    exact .inr ⟨body, htag, hindex⟩

/-- A statement names a column that is not declared in front of it. -/
inductive StrayStatement (earlier : List Json) (tables : List Table) (statement : Json)
    (name column : String) : Purpose → Prop
  | element {body : Json} {purpose : Purpose}
      (htag : statement.tagged? = some ("CreateStmt", body))
      (hstray : StrayElement tables body name column purpose) :
      StrayStatement earlier tables statement name column purpose
  | index {body : Json} (htag : statement.tagged? = some ("IndexStmt", body))
      (hstray : StrayIndex earlier body name column) :
      StrayStatement earlier tables statement name column .createIndex

/-- **A statement is refused for a column** when it names one that is not declared in front. -/
theorem applyStatement_eq_unknownColumn (h : Agrees earlier tables) {name column : String}
    {purpose : Purpose} :
    applyStatement tables statement = .error (.unknownColumn name column purpose) ↔
      StrayStatement earlier tables statement name column purpose := by
  have hcause : (ParseError.unknownColumn name column purpose).AboutName := trivial
  rw [applyStatement_eq_error]
  constructor
  · rintro (⟨body, htag, hcreate⟩ | ⟨body, htag, hindex⟩)
    · obtain ⟨other, column', purpose', hsame, hstray⟩ := (createTable_eq_stray hcause).1 hcreate
      cases hsame
      exact .element htag hstray
    · obtain ⟨other, hrelation, hstray⟩ := (createIndex_eq_stray hcause).1 hindex
      rcases hstray with ⟨-, hsame⟩ | ⟨table, column', hfound, honly, hcolumn, hsame⟩
      · cases hsame
      · cases hsame
        have hfirst := (h.exists_first_iff name column).1 ⟨table, hfound, hcolumn⟩
        exact .index htag ⟨hrelation, honly, hfirst⟩
  · intro hstatement
    cases hstatement with
    | @element body purpose htag hstray =>
      have hcreate : createTable tables body = .error (.unknownColumn name column purpose) :=
        (createTable_eq_stray hcause).2 ⟨name, column, purpose, rfl, hstray⟩
      exact .inl ⟨body, htag, hcreate⟩
    | @index body htag hstray =>
      obtain ⟨table, hfound, hcolumn⟩ := (h.exists_first_iff name column).2 hstray.first
      have hindex : createIndex tables body = .error (.unknownColumn name column .createIndex) :=
        (createIndex_eq_stray hcause).2
          ⟨name, hstray.relation, .inr ⟨table, column, hfound, hstray.only, hcolumn, rfl⟩⟩
      exact .inr ⟨body, htag, hindex⟩

/-- An error about a name is that of a statement, when all statements in front of it are applied. -/
theorem tablesOf_eq_error {tree : Json} (hcause : cause.AboutName) :
    tablesOf tree = .error cause ↔
      ∃ script earlier tables statement, statements tree = .ok script ∧
        ComesTo applyStatement [] script earlier tables statement ∧
        applyStatement tables statement = .error cause := by
  have hfinish : ∀ script : List Json, (script.foldlM applyStatement [] >>= fun tables =>
      (pure (tables.map (·.finalize)) : Except ParseError (List Table))) = .error cause ↔
        script.foldlM applyStatement [] = .error cause := by
    intro script
    rw [bind_eq_error]
    simp [pure, Except.pure]
  rw [tablesOf, (onlyShape_statements tree).bind_eq_error hcause]
  refine exists_congr fun script => ?_
  rw [hfinish, foldlM_eq_error]
  simp only [exists_and_left]

/-- When a statement is refused for a name is known from the statement and from those in front of
it. A script is refused for the name when it comes to such a statement. -/
theorem tablesOf_eq_error_of_statement {tree : Json} (hcause : cause.AboutName)
    {P : List Json → List Table → Json → Prop}
    (hstatement : ∀ earlier tables statement, Agrees earlier tables →
      (applyStatement tables statement = .error cause ↔ P earlier tables statement)) :
    tablesOf tree = .error cause ↔
      ∃ script earlier tables statement, statements tree = .ok script ∧
        ComesTo applyStatement [] script earlier tables statement ∧
        P earlier tables statement := by
  rw [tablesOf_eq_error hcause]
  refine exists_congr fun script => exists_congr fun earlier => exists_congr fun tables =>
    exists_congr fun statement => and_congr_right fun _ => and_congr_right fun hcomes => ?_
  exact hstatement earlier tables statement (run_agrees hcomes.reached)

/--
**A script is refused for a name exactly when it names what is not declared**, at a statement behind
others that are all applied. It is refused for a table when that is an index statement, and no table
statement in front of it creates a table of that name. It is refused for a column when it is a table
statement that names the column in a constraint, behind elements that are all applied and define no
such column; or when it is an index statement with the column as its only name, and the statement
that creates its table defines no such column. Whether that statement can be applied is left open
here: that it cannot is a consequence.
-/
theorem tablesOf_unknown_iff (tree : Json) :
    (∀ name purpose, tablesOf tree = .error (.unknownTable name purpose) ↔
      ∃ script earlier tables statement, statements tree = .ok script ∧
        ComesTo applyStatement [] script earlier tables statement ∧
        purpose = .createIndex ∧ ∃ body, statement.tagged? = some ("IndexStmt", body) ∧
          relation? body = some name ∧ name ∉ createdNames earlier) ∧
    ∀ name column purpose, tablesOf tree = .error (.unknownColumn name column purpose) ↔
      ∃ script earlier tables statement, statements tree = .ok script ∧
        ComesTo applyStatement [] script earlier tables statement ∧
        StrayStatement earlier tables statement name column purpose := by
  constructor
  · intro name purpose
    have hcause : (ParseError.unknownTable name purpose).AboutName := trivial
    refine tablesOf_eq_error_of_statement hcause fun earlier tables statement hagrees => ?_
    exact applyStatement_eq_unknownTable hagrees
  · intro name column purpose
    have hcause : (ParseError.unknownColumn name column purpose).AboutName := trivial
    refine tablesOf_eq_error_of_statement hcause fun earlier tables statement hagrees => ?_
    exact applyStatement_eq_unknownColumn hagrees

/-- Of two keys that no column stands for, the first one is reported. -/
example :
    tablesOf (scriptNode [tableNode "users"
      [ columnNode "email" "text" []
      , constraintNode 5
          [("keys", .array [stringNode "email", stringNode "id", stringNode "org"])] ]]) =
      .error (.unknownColumn "users" "id" .setPrimaryKey) := by
  decide +kernel

end Script

end EntSchema.ParseTree
