import EntSchema.Proofs.ParseTree.Accounting
import EntSchema.Proofs.ParseTree.Created

/-!
# Names and types, as they are written

Constraints and indexes come in any mixture between the columns and behind the tables. None of
them touches a name, a type or an order: the tables of a script are its table statements in
outline, and the columns of a table are the column definitions of its statement in outline.

An outline holds the texts that stand in the tree, where the walk reads them. A text that is
missing stays missing in the outline, so the comparison says as well that each name and each type
was there.

## Main results

* `readColumn_outline` — a column has the name and the type of its definition.
* `createTable_outline` — a new table is its statement in outline.
* `tablesOf_outline` — the tables of an accepted script are its table statements in outline.
-/

namespace EntSchema.ParseTree

open Relational Fold

/-! ## Outlines -/

/-- The name of a column and its type. -/
def columnOutline (column : Column) : Option String × Option String :=
  (some column.name, some column.type)

/-- The name of a table, and its columns in outline. -/
def tableOutline (table : Table) : Option String × List (Option String × Option String) :=
  (some table.name, table.columns.map columnOutline)

/-- The name and the type that stand in the definition of a column. The type is the last part of
its qualified name. -/
def definitionOutline (definition : Json) : Option String × Option String :=
  ((definition.get? "colname").bind Json.text?,
    (definition.get? "typeName.TypeName.names").bind fun names =>
      names.items.getLast?.bind Json.stringNode?)

/-- The name of the relation that a table statement creates, and its column definitions in
outline. -/
def statementOutline (statement : Json) :
    Option String × List (Option String × Option String) :=
  ((statement.get? "relation.RangeVar.relname").bind Json.text?,
    (bodies "ColumnDef" (itemsAt statement "tableElts")).map definitionOutline)

/-- A table in outline is settled. -/
theorem tableOutline_settled (table : Table) : tableOutline table.settled = tableOutline table := by
  rw [tableOutline, tableOutline, Table.settled, List.map_map]
  rfl

/-! ## Columns -/

section Column

variable {tables : List Table} {current table changed : Table}

theorem text_of_nonEmptyText? {node : Json} {path text : String}
    (h : node.nonEmptyText? path = some text) : (node.get? path).bind Json.text? = some text := by
  obtain ⟨htext, -⟩ := Option.filter_eq_some_iff.1 h
  exact htext

/-- The last part of the name of a type is what stands there. -/
theorem lastName_of_requireLastName {node : Json} {path name : String}
    (h : requireLastName node path = .ok name) :
    (node.get? path).bind (fun names => names.items.getLast?.bind Json.stringNode?) =
      some name := by
  rw [requireLastName] at h
  split at h
  · rename_i found hfound
    obtain ⟨hlast, -⟩ := Option.filter_eq_some_iff.1 hfound
    cases h
    exact hlast
  · cases h

/-- The name of a type is found in two steps, first the type and then its name. -/
theorem get?_typeName (definition : Json) :
    definition.get? "typeName.TypeName.names" =
      (definition.get? "typeName").bind (·.get? "TypeName.names") := by
  have hpath : "typeName.TypeName.names" = "typeName" ++ "." ++ "TypeName.names" := rfl
  rw [hpath, Json.get?_append_dot]

/-- The constraints of a column keep its outline. -/
theorem ColumnStep.outline {constraint : Json} {column next : Column}
    (h : ColumnStep tables current constraint column next) :
    columnOutline next = columnOutline column := by
  cases h with
  | @default tag body value hkind hexpr hvalue => cases value.isNull <;> rfl
  | _ => rfl

/-- **A column has the name and the type of its definition.** -/
theorem readColumn_outline {definition : Json} {column : Column}
    (h : readColumn tables current definition = .ok column) :
    columnOutline column = definitionOutline definition := by
  obtain ⟨name, node, type, hname, hnode, htype, hfold⟩ := readColumn_eq_ok.1 h
  have hkept : columnOutline column = (some name, some type) := by
    refine foldlM_invariant (fun column => columnOutline column = (some name, some type))
      rfl ?_ hfold
    intro before element after hbefore hafter
    obtain ⟨constraint, -, hstep⟩ := applyColumnConstraint_eq_ok.1 hafter
    exact hstep.outline.trans hbefore
  have hwritten : definitionOutline definition = (some name, some type) := by
    rw [definitionOutline, text_of_nonEmptyText? hname, get?_typeName, hnode]
    exact congrArg (Prod.mk (some name)) (lastName_of_requireLastName htype)
  rw [hkept, hwritten]

end Column

/-! ## Tables -/

section Table

variable {tables : List Table} {table changed : Table}

theorem tableOutline_of_changeColumn? {name : String} {change : Column → Column}
    (hkeep : ∀ column, columnOutline (change column) = columnOutline column)
    (h : table.changeColumn? name change = some changed) :
    tableOutline changed = tableOutline table := by
  unfold tableOutline
  rw [Table.name_of_changeColumn? h, Table.map_columns_of_changeColumn? hkeep h]

/-- The constraints beside the columns keep the outline of a table. -/
theorem ConstraintStep.outline {constraint : Json}
    (h : ConstraintStep tables table constraint changed) :
    tableOutline changed = tableOutline table := by
  cases h with
  | ignored hkind => rfl
  | primaryKey hkind hkeys =>
    refine foldlM_invariant (fun state => tableOutline state = tableOutline table) rfl ?_ hkeys
    intro before key after hbefore hafter
    have hkeep : ∀ column : Column, columnOutline column.markPrimary = columnOutline column :=
      fun _ => rfl
    rw [tableOutline_of_changeColumn? hkeep (changeColumn_eq_ok.1 hafter), hbefore]
  | unique hkind hcover =>
    rw [← tableOutline_settled, coverColumns_settled hcover, tableOutline_settled]
  | @foreignKey target name changed hkind htarget hname hchange =>
    have hkeep : ∀ column : Column,
        columnOutline { column with foreignKey := some target } = columnOutline column :=
      fun _ => rfl
    exact tableOutline_of_changeColumn? hkeep hchange

/-- An element adds what it defines, and nothing else is seen of it. -/
theorem ElementStep.outline {element : Json} (h : ElementStep tables table element changed) :
    changed.name = table.name ∧
      changed.columns.map columnOutline = table.columns.map columnOutline ++
        (bodies "ColumnDef" [element]).map definitionOutline := by
  refine ⟨h.name, ?_⟩
  rw [bodies_singleton]
  cases h with
  | @column body column htag hcolumn =>
    rw [body?_eq_some.2 htag, Table.addColumn, List.map_append, Option.toList_some,
      List.map_singleton, List.map_singleton, readColumn_outline hcolumn]
  | constraint htag hstep =>
    rw [body?_of_ne htag (by decide), Option.toList_none, List.map_nil, List.append_nil]
    exact congrArg Prod.snd hstep.outline
  | ignored hcolumn hconstraint =>
    rw [body?_eq_none hcolumn, Option.toList_none, List.map_nil, List.append_nil]

/-- **A new table is its statement in outline.** -/
theorem createTable_outline {statement : Json} (h : createTable tables statement = .ok table) :
    tableOutline table = statementOutline statement := by
  obtain ⟨name, hname, hfold⟩ := createTable_eq_ok.1 h
  have hbuilt : table.name = name ∧ table.columns.map columnOutline =
      (bodies "ColumnDef" (itemsAt statement "tableElts")).map definitionOutline := by
    refine foldlM_history (fun past state => state.name = name ∧
      state.columns.map columnOutline = (bodies "ColumnDef" past).map definitionOutline)
      ⟨rfl, rfl⟩ ?_ hfold
    intro past state element next hpast hnext
    obtain ⟨hsame, hcolumns⟩ := (applyElement_eq_ok.1 hnext).outline
    refine ⟨hsame.trans hpast.1, ?_⟩
    rw [hcolumns, hpast.2, bodies_append, List.map_append]
  unfold tableOutline statementOutline
  rw [hbuilt.1, hbuilt.2, text_of_nonEmptyText? hname]

end Table

/-! ## Scripts -/

theorem Created.outline {script : List Json} {tables : List Table} (h : Created script tables) :
    tables.map tableOutline = (bodies "CreateStmt" script).map statementOutline := by
  have hlength : (tables.map tableOutline).length =
      ((bodies "CreateStmt" script).map statementOutline).length := by
    rw [List.length_map, List.length_map, h.length]
  refine List.ext_getElem hlength ?_
  intro place hplace hplace'
  rw [List.length_map] at hplace hplace'
  have hsplit : tables = tables.take place ++ tables[place] :: tables.drop (place + 1) := by
    simp
  obtain ⟨statement, created, hstatement, hcreated, hsettled⟩ := h.table _ _ _ hsplit
  have hfront : (tables.take place).length = place := by
    rw [List.length_take]
    omega
  rw [hfront, List.getElem?_eq_getElem hplace', Option.some.injEq] at hstatement
  rw [List.getElem_map, List.getElem_map, hstatement, ← createTable_outline hcreated,
    ← tableOutline_settled, ← hsettled, tableOutline_settled]

/-- **The tables of an accepted script are its table statements in outline**: the same names in
the same order, and for each table the same names and types of columns in the same order. -/
theorem tablesOf_outline {tree : Json} {tables : List Table} (h : tablesOf tree = .ok tables) :
    ∃ script, statements tree = .ok script ∧
      tables.map tableOutline = (bodies "CreateStmt" script).map statementOutline := by
  obtain ⟨script, hscript, hcreated⟩ := tablesOf_created h
  exact ⟨script, hscript, hcreated.outline⟩

/-- The blog in outline, read off its statements. -/
theorem blogTree_outline :
    ∃ script, statements blogTree = .ok script ∧
      (bodies "CreateStmt" script).map statementOutline =
        [ (some "users", [(some "id", some "int8"), (some "email", some "text"),
            (some "nick", some "text")])
        , (some "posts", [(some "author", some "int8"), (some "slug", some "text"),
            (some "title", some "text")]) ] := by
  obtain ⟨script, hscript, houtline⟩ := tablesOf_outline tablesOf_blogTree
  exact ⟨script, hscript, houtline.symm⟩

end EntSchema.ParseTree
