import EntSchema.Proofs.ParseTree.Accounting
import EntSchema.Proofs.ParseTree.Finished

/-!
# Constraints at a column and beside it

A primary key, a unique constraint or a foreign key may stand at the definition of its column, or
beside the columns, where it names the column. The walk reads the two forms in different places:
one changes a column that is not part of the table yet, the other looks its column up in the table.
Moving a constraint from its column to the place right behind it makes no difference all the same,
neither to the tables nor to the error (`tablesOf_moved`).

Two conditions are needed. No column in front may have the name, because a constraint beside the
columns means the first one of a name. And a foreign key without columns may not refer to the own
table: at its column it does not see the column itself, and beside it it does.

## Main results

* `applyTableConstraint_beside` — one constraint in its two forms.
* `createTable_moved` — one table statement with a constraint in its two places.
* `tablesOf_moved` — a script with such a statement.
-/

namespace EntSchema.ParseTree

open Relational Fold

/-! ## The two forms -/

/-- A constraint that stands at a column of a name, and the same constraint as it stands beside the
columns. A foreign key without columns must not refer to the table that is created. -/
inductive Beside (created? : Option String) (name : String) (constraint : Json) : Json → Prop
  | primaryKey (hkind : ConstraintKind.ofNode? constraint = some .primaryKey) :
      Beside created? name constraint (constraint.withField "keys" (.array [stringNode name]))
  | unique (hkind : ConstraintKind.ofNode? constraint = some .unique) :
      Beside created? name constraint (constraint.withField "keys" (.array [stringNode name]))
  | foreignKey (hkind : ConstraintKind.ofNode? constraint = some .foreignKey)
      (htarget : (∃ columns, constraint.get? "pk_attrs" = some columns) ∨
        ∀ created, created? = some created →
          constraint.nonEmptyText? "pktable.RangeVar.relname" ≠ some created) :
      Beside created? name constraint
        (constraint.withField "fk_attrs" (.array [stringNode name]))

section Forms

variable {tables : List Table} {table : Table} {constraint : Json} {name : String}

/-- A constraint of a known kind is an object. -/
theorem exists_object_of_ofNode? {kind : ConstraintKind}
    (h : ConstraintKind.ofNode? constraint = some kind) :
    ∃ fields, constraint = .object fields := by
  obtain ⟨code, hcode, -⟩ := Option.bind_eq_some_iff.1 h
  obtain ⟨value, hvalue, -⟩ := Option.bind_eq_some_iff.1 hcode
  exact Json.exists_object (by decide) (by decide) hvalue

theorem ofNode?_withField {key : String} (hkey : "contype".toList ≠ key.toList) (value : Json) :
    ConstraintKind.ofNode? (constraint.withField key value) =
      ConstraintKind.ofNode? constraint := by
  rw [ConstraintKind.ofNode?, ConstraintKind.ofNode?,
    Json.get?_withField_of_ne (Json.steps_eq_singleton (by decide)) hkey]

/-- The column that a foreign key stands at says nothing about where it points. -/
theorem foreignKeyTarget_withField (tables : List Table) (current : Table) (value : Json) :
    foreignKeyTarget tables current (constraint.withField "fk_attrs" value) =
      foreignKeyTarget tables current constraint := by
  have htable : Json.steps "pktable.RangeVar.relname" =
      ["pktable".toList, "RangeVar".toList, "relname".toList] := by decide
  rw [foreignKeyTarget, foreignKeyTarget, requireText, requireText,
    Json.nonEmptyText?_withField_of_ne htable (by decide),
    Json.get?_withField_of_ne (Json.steps_eq_singleton (by decide)) (by decide)]

theorem stringsAt_withField {fields : List (String × Json)} {key : String}
    (hkey : '.' ∉ key.toList) :
    stringsAt ((Json.object fields).withField key (.array [stringNode name])) key = [name] :=
  stringsAt_of_map (Json.get?_withField_self hkey)

theorem nonEmptyText?_foreignColumn {fields : List (String × Json)} (hname : name ≠ "") :
    ((Json.object fields).withField "fk_attrs" (.array [stringNode name])).nonEmptyText?
      "fk_attrs.0.String.str" = some name := by
  have hsteps : Json.steps "fk_attrs.0.String.str" =
      "fk_attrs".toList :: ["0".toList, "String".toList, "str".toList] := by decide
  have hrest : Json.follow? ["0".toList, "String".toList, "str".toList]
      (.array [stringNode name]) = some (.text name) := rfl
  rw [Json.nonEmptyText?, Json.get?_withField hsteps, hrest]
  simp [Json.text?, hname]

/-- A new column does not matter to a foreign key that does not look for the key of its table. -/
theorem foreignKeyTarget_addColumn (column : Column)
    (h : (∃ columns, constraint.get? "pk_attrs" = some columns) ∨
      constraint.nonEmptyText? "pktable.RangeVar.relname" ≠ some table.name) :
    foreignKeyTarget tables (table.addColumn column) constraint =
      foreignKeyTarget tables table constraint := by
  refine foreignKeyTarget_congr ?_
  intro hcolumns relation hrelation
  rcases h with ⟨columns, hsome⟩ | hother
  · rw [hcolumns] at hsome
    cases hsome
  · have hne : table.name ≠ relation := by
      rintro rfl
      exact hother hrelation
    have hadded : (table.addColumn column).name ≠ relation := hne
    rw [implicitTarget_cons_of_none (absurd · hne), implicitTarget_cons_of_none (absurd · hadded)]

/-- **One constraint in its two forms**: beside a column that has just been added it does what it
does to the column before that, or fails with the same error. -/
theorem applyTableConstraint_beside {column : Column} {node moved : Json}
    (hconstraint : node.get? "Constraint" = some constraint)
    (hbeside : Beside (some table.name) column.name constraint moved)
    (hname : column.name ≠ "") (hnew : column.name ∉ table.columnNames) :
    applyTableConstraint tables (table.addColumn column) moved =
      table.addColumn <$> applyColumnConstraint tables table column node := by
  cases hbeside with
  | primaryKey hkind =>
    obtain ⟨fields, rfl⟩ := exists_object_of_ofNode? hkind
    have hown : applyColumnConstraint tables table column node = .ok column.markPrimary :=
      applyColumnConstraint_eq_ok.2 ⟨_, hconstraint, .primaryKey hkind⟩
    rw [hown]
    refine applyTableConstraint_eq_ok.2 (.primaryKey ?_ ?_)
    · rw [ofNode?_withField (by decide), hkind]
    · rw [stringsAt_withField (by decide), List.foldlM_cons, changeColumn_addColumn hnew]
      rfl
  | unique hkind =>
    obtain ⟨fields, rfl⟩ := exists_object_of_ofNode? hkind
    have hown : applyColumnConstraint tables table column node = .ok (column.markUnique true) :=
      applyColumnConstraint_eq_ok.2 ⟨_, hconstraint, .unique hkind⟩
    rw [hown]
    refine applyTableConstraint_eq_ok.2 (.unique ?_ ?_)
    · rw [ofNode?_withField (by decide), hkind]
    · rw [stringsAt_withField (by decide)]
      exact changeColumn_addColumn hnew _ _
  | foreignKey hkind htarget =>
    obtain ⟨fields, rfl⟩ := exists_object_of_ofNode? hkind
    have hsame : foreignKeyTarget tables (table.addColumn column) (.object fields) =
        foreignKeyTarget tables table (.object fields) :=
      foreignKeyTarget_addColumn column (htarget.imp_right (· table.name rfl))
    have hkind' : ConstraintKind.ofNode?
        ((Json.object fields).withField "fk_attrs" (.array [stringNode column.name])) =
          some .foreignKey := by
      rw [ofNode?_withField (by decide), hkind]
    rw [applyColumnConstraint_foreignKey hconstraint hkind,
      applyTableConstraint_foreignKey hkind' (nonEmptyText?_foreignColumn hname),
      foreignKeyTarget_withField, hsame]
    cases foreignKeyTarget tables table (.object fields) with
    | error cause => rfl
    | ok target => exact changeColumn_addColumn hnew .setForeignKey _

end Forms

/-! ## A column with its last constraint moved -/

/-- A column, the column without its last constraint, and that constraint as it stands beside the
columns. No column in front has taken the name. -/
inductive MovedOut (created? : Option String) (taken : List String) (column column' : Json) :
    Json → Prop
  | behind {definition node constraint constraint' : Json} {others : List Json} {name : String}
      (hcolumn : column.tagged? = some ("ColumnDef", definition))
      (hname : (definition.get? "colname").bind Json.text? = some name)
      (hnew : name ∉ taken)
      (hlast : definition.get? "constraints" = some (.array (others ++ [node])))
      (hconstraint : node.get? "Constraint" = some constraint)
      (hcolumn' : column'.tagged? =
        some ("ColumnDef", definition.withField "constraints" (.array others)))
      (hbeside : Beside created? name constraint constraint') :
      MovedOut created? taken column column' (.object [("Constraint", constraint')])

section Column

variable {tables : List Table} {table : Table}

/-- The last constraint of a column is applied to the column that the others have made. -/
theorem readColumn_last {definition node : Json} {others : List Json}
    (hlast : definition.get? "constraints" = some (.array (others ++ [node]))) :
    readColumn tables table definition =
      readColumn tables table (definition.withField "constraints" (.array others)) >>=
        fun column => applyColumnConstraint tables table column node := by
  obtain ⟨fields, rfl⟩ := Json.exists_object (by decide) (by decide) hlast
  have hothers : itemsAt ((Json.object fields).withField "constraints" (.array others))
      "constraints" = others := itemsAt_of_get? (Json.get?_withField_self (by decide))
  rw [readColumn, readColumn, hothers, itemsAt_of_get? hlast, requireText, requireText, require,
    require, Json.nonEmptyText?_withField_of_ne (Json.steps_eq_singleton (by decide)) (by decide),
    Json.get?_withField_of_ne (Json.steps_eq_singleton (by decide)) (by decide)]
  simp only [List.foldlM_append, List.foldlM_cons, List.foldlM_nil, bind_assoc, bind_pure]

/-- **A column with its last constraint moved** adds the same column to a table. -/
theorem applyElement_movedOut {column column' beside : Json}
    (h : MovedOut (some table.name) table.columnNames column column' beside) :
    (applyElement tables table column' >>= (applyElement tables · beside)) =
      applyElement tables table column := by
  cases h with
  | @behind definition node constraint constraint' others name hcolumn hname hnew hlast hconstraint
      hcolumn' hbeside =>
    rw [applyElement_of_column hcolumn, applyElement_of_column hcolumn', readColumn_last hlast]
    cases hread : readColumn tables table (definition.withField "constraints" (.array others)) with
    | error cause => rfl
    | ok read =>
      obtain ⟨hnamed, -⟩ := readColumn_flags hread
      rw [Json.nonEmptyText?_withField_of_ne (Json.steps_eq_singleton (by decide)) (by decide)]
        at hnamed
      obtain ⟨hsame, -⟩ := Option.filter_eq_some_iff.1 hnamed
      rw [hname, Option.some.injEq] at hsame
      subst hsame
      have htag : (Json.object [("Constraint", constraint')]).tagged? =
          some ("Constraint", constraint') := rfl
      exact (applyElement_of_constraint htag).trans
        (applyTableConstraint_beside hconstraint hbeside (ne_empty_of_nonEmptyText? hnamed) hnew)

end Column

/-! ## A statement with the constraint moved -/

/-- The elements of a statement before and after a constraint has been moved behind its column. -/
inductive Moved (created? : Option String) : List Json → List Json → Prop
  | within {before after : List Json} {column column' beside : Json}
      (hmoved : MovedOut created? (definedNames before) column column' beside) :
      Moved created? (before ++ column :: after) (before ++ column' :: beside :: after)

section Statement

variable {tables : List Table}

theorem foldlM_moved {elements elements' : List Json} {name : String}
    (h : Moved (some name) elements elements') :
    elements'.foldlM (applyElement tables) { name } =
      elements.foldlM (applyElement tables) { name } := by
  cases h with
  | @within before after column column' beside hmoved =>
    rw [List.foldlM_append, List.foldlM_append]
    cases hbefore : before.foldlM (applyElement tables) { name } with
    | error cause => rfl
    | ok known =>
      obtain ⟨rfl, hbuilt⟩ := run_built hbefore
      rw [← hbuilt.stated.columnNames] at hmoved
      show (column' :: beside :: after).foldlM (applyElement tables) known =
        (column :: after).foldlM (applyElement tables) known
      rw [List.foldlM_cons, List.foldlM_cons, ← applyElement_movedOut hmoved, bind_assoc]
      rfl

/-- **One table statement with a constraint in its two places** creates the same table, or fails
with the same error. -/
theorem createTable_moved {body : Json} {elements elements' : List Json}
    (helements : body.get? "tableElts" = some (.array elements))
    (hmoved : Moved (relation? body) elements elements') :
    createTable tables (body.withField "tableElts" (.array elements')) =
      createTable tables body := by
  obtain ⟨fields, rfl⟩ := Json.exists_object (by decide) (by decide) helements
  have hrelation : relationName ((Json.object fields).withField "tableElts" (.array elements')) =
      relationName (.object fields) := by
    rw [relationName, relationName, requireText, requireText,
      Json.nonEmptyText?_withField_of_ne steps_relation (by decide)]
  have hitems : itemsAt ((Json.object fields).withField "tableElts" (.array elements'))
      "tableElts" = elements' := itemsAt_of_get? (Json.get?_withField_self (by decide))
  rw [createTable, createTable, hrelation, hitems, itemsAt_of_get? helements]
  cases hname : relationName (.object fields) with
  | error cause => rfl
  | ok name =>
    rw [relationName_eq_ok.1 hname] at hmoved
    exact foldlM_moved hmoved

end Statement

/-! ## A script with the constraint moved -/

section Script

variable {first rest : List Json} {element element' statement statement' : Json}

/-- **A constraint may stand at its column or behind it.** When the last constraint of a column is
moved out of its definition and put right behind it, where it names the column, a script has the
same tables, or is refused with the same error. -/
theorem tablesOf_moved {body : Json} {elements elements' : List Json}
    (hstatement : element.get? "RawStmt.stmt" = some statement)
    (hbody : statement.tagged? = some ("CreateStmt", body))
    (helements : body.get? "tableElts" = some (.array elements))
    (hmoved : Moved (relation? body) elements elements')
    (hstatement' : element'.get? "RawStmt.stmt" = some statement')
    (hbody' : statement'.tagged? =
      some ("CreateStmt", body.withField "tableElts" (.array elements'))) :
    tablesOf (.array (first ++ element' :: rest)) =
      tablesOf (.array (first ++ element :: rest)) := by
  refine tablesOf_replace hstatement hstatement' ?_
  intro tables
  rw [applyStatement_of_createTable hbody, applyStatement_of_createTable hbody',
    createTable_moved helements hmoved]

end Script

/-- The last constraint of a column that is written out, moved behind it. -/
theorem movedOut_columnNode {created? : Option String} {taken : List String} {name type : String}
    {others : List Json} {constraint constraint' : Json} (hnew : name ∉ taken)
    (hbeside : Beside created? name constraint constraint') :
    MovedOut created? taken
      (columnNode name type (others ++ [.object [("Constraint", constraint)]]))
      (columnNode name type others) (.object [("Constraint", constraint')]) := by
  have hcolname : ∀ constraints : List Json, (Json.get? (.object [("colname", .text name),
      ("constraints", .array constraints), ("typeName", typeNode type)]) "colname").bind
        Json.text? = some name := by
    intro constraints
    rw [Json.get?_object (by decide)]
    rfl
  have hremoved : (columnNode name type others).tagged? = some ("ColumnDef", (Json.object
      [("colname", .text name), ("constraints", .array (others ++ [.object
        [("Constraint", constraint)]])), ("typeName", typeNode type)]).withField "constraints"
          (.array others)) := by
    have hbehind : ¬"constraints" < "colname" := by decide
    simp [columnNode, Json.tagged?, Json.withField, Ordered.put, hbehind]
  exact .behind rfl (hcolname _) hnew (Json.get?_object (by decide)) (Json.get?_object (by decide))
    hremoved hbeside

/-- The posts of the blog, with the foreign key of the author behind its column. -/
def movedPosts : Json :=
  tableNode "posts"
    [ columnNode "author" "int8" []
    , constraintNode 8
        [("fk_attrs", .array [stringNode "author"]), ("pktable", relationNode "users")]
    , columnNode "slug" "text" []
    , columnNode "title" "text" []
    , constraintNode 5 [("keys", .array [stringNode "author", stringNode "slug"])]
    , constraintNode 6 [("keys", .array [stringNode "slug", stringNode "title"])] ]

/-- The blog has the same tables with the foreign key of its posts moved. -/
theorem blogTree_moved :
    tablesOf (.array ((blogScript.take 1).map rawNode ++ rawNode movedPosts ::
      (blogScript.drop 2).map rawNode)) = .ok blogTables := by
  have hstatement := require_eq_ok.1 (require_rawStmt blogScript[1])
  have hmoved := require_eq_ok.1 (require_rawStmt movedPosts)
  have hbeside : Beside (some "posts") "author"
      (.object [("contype", .number (.integer 8)), ("pktable", relationNode "users")])
      (.object [("contype", .number (.integer 8)), ("fk_attrs", .array [stringNode "author"]),
        ("pktable", relationNode "users")]) := by
    refine .foreignKey ?_ (.inr ?_)
    · decide +kernel
    · rintro created ⟨⟩
      decide +kernel
  rw [tablesOf_moved hstatement rfl (Json.get?_object (by decide)) ?_ hmoved rfl]
  · exact tablesOf_blogTree
  · rw [relation?_object (by decide)]
    show Moved _ ([] ++ columnNode _ _ ([] ++ [.object [("Constraint", _)]]) :: _)
      ([] ++ _ :: .object [("Constraint", _)] :: _)
    exact .within (movedOut_columnNode (by simp [definedNames, bodies]) hbeside)

end EntSchema.ParseTree
