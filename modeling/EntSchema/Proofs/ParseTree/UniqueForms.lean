import EntSchema.Proofs.ParseTree.Accounting
import EntSchema.Proofs.ParseTree.Finished
import EntSchema.Proofs.ParseTree.Nodes

/-!
# Unique constraints and unique indexes

That some columns of a table are unique together can be said in two ways: by a constraint that
closes the table statement, or by an index statement right behind it. The first one is read while
the table is under construction and is not among the tables yet. The second one has to find the
table by its name among all the tables of the script so far. So the two agree only where the name
is new, and then they agree altogether: the tables are the same for whatever follows.

The errors are the same too, except that the error about a missing column says what was about to be
done, which is to set a constraint in one case and to create an index in the other (`SameRefusal`).

## Main results

* `createTable_withElement` — a table statement with one more element.
* `coverColumns_purpose` — covering columns for one purpose and for another.
* `tablesOf_uniqueForms` — a script with the constraint against one with the index.
-/

namespace EntSchema.ParseTree

open Relational Fold

/-- The error of a script with a unique constraint and that of a script with a unique index. -/
inductive SameRefusal : ParseError → ParseError → Prop
  | same (cause : ParseError) : SameRefusal cause cause
  | column (table column : String) :
      SameRefusal (.unknownColumn table column .setUniqueConstraint)
        (.unknownColumn table column .createIndex)

/-! ## One more element -/

/-- The body of a table statement with one more element, at the end. -/
def withElement (body element : Json) : Json :=
  body.withField "tableElts" (.array (itemsAt body "tableElts" ++ [element]))

theorem relation?_withElement (body element : Json) :
    relation? (withElement body element) = relation? body :=
  Json.nonEmptyText?_withField_of_ne steps_relation (by decide)

/-- A body that names a relation is an object, so it has room for an element. -/
theorem itemsAt_withElement {body : Json} {name : String} (hname : relation? body = some name)
    (element : Json) :
    itemsAt (withElement body element) "tableElts" = itemsAt body "tableElts" ++ [element] := by
  obtain ⟨htext, -⟩ := Option.filter_eq_some_iff.1 hname
  obtain ⟨value, hvalue, -⟩ := Option.bind_eq_some_iff.1 htext
  obtain ⟨fields, rfl⟩ := Json.exists_object_of_steps steps_relation (by decide) hvalue
  exact itemsAt_of_get? (Json.get?_withField_self (by decide))

/-- **A table statement with one more element** applies that element to the table. -/
theorem createTable_withElement (tables : List Table) (body element : Json) :
    createTable tables (withElement body element) =
      createTable tables body >>= (applyElement tables · element) := by
  have hrelation : relationName (withElement body element) = relationName body := by
    unfold relationName requireText
    rw [← relation?, ← relation?, relation?_withElement]
  rw [createTable, createTable, hrelation]
  cases hname : relationName body with
  | error cause => rfl
  | ok name =>
    have hitems := itemsAt_withElement (relationName_eq_ok.1 hname) element
    show (itemsAt (withElement body element) "tableElts").foldlM (applyElement tables) { name } =
      (itemsAt body "tableElts").foldlM (applyElement tables) { name } >>=
        (applyElement tables · element)
    rw [hitems, List.foldlM_append]
    simp only [List.foldlM_cons, List.foldlM_nil, bind_pure]

/-! ## The two forms -/

/-- A constraint on the table of a statement and an index statement behind it say that the same
columns are unique. -/
structure SameUnique (body constraint index : Json) : Prop where
  kind : ConstraintKind.ofNode? constraint = some .unique
  relation : relation? index = relation? body
  unique : isUniqueIndex index = true
  columns : indexColumns index = stringsAt constraint "keys"
  named : stringsAt constraint "keys" ≠ []

/-- Covering columns differs in the purpose that its error gives, and in nothing else. -/
theorem coverColumns_purpose (table : Table) (columns : List String) (isUnique : Bool) :
    Alike SameRefusal Eq (coverColumns table columns isUnique .setUniqueConstraint)
      (coverColumns table columns isUnique .createIndex) := by
  match columns with
  | [] => exact .ok rfl
  | [name] =>
    rw [coverColumns, coverColumns, changeColumn, changeColumn]
    cases table.changeColumn? name (·.markUnique isUnique) with
    | none => exact .error (.column table.name name)
    | some changed => exact .ok rfl
  | first :: second :: rest => exact .ok rfl

section Forms

variable {tables : List Table} {table : Table} {body constraint index : Json}

/-- The index statement finds the table that has just been created, when its name is new. -/
theorem createIndex_of_last (h : SameUnique body constraint index)
    (hname : relation? body = some table.name)
    (hnew : ∀ earlier ∈ tables, earlier.name ≠ table.name) :
    createIndex (tables ++ [table]) index =
      (tables ++ [·]) <$> coverColumns table (stringsAt constraint "keys") true .createIndex := by
  have hnamed : indexColumns index ≠ [] := by
    rw [h.columns]
    exact h.named
  rw [createIndex_of_relation (h.relation.trans hname), changeTable_of_split hnew rfl,
    addStatementIndex_of_named hnamed, h.columns, h.unique]

/-- **One statement with the constraint does what two statements do**: it leads to the same tables,
or fails with the same error but for the purpose. -/
theorem applyStatement_uniqueForms {element statement statement' follower : Json}
    (h : SameUnique body constraint index)
    (hnew : ∀ name, relation? body = some name → ∀ earlier ∈ tables, earlier.name ≠ name)
    (helement : element.tagged? = some ("Constraint", constraint))
    (hbody : statement.tagged? = some ("CreateStmt", body))
    (hbody' : statement'.tagged? = some ("CreateStmt", withElement body element))
    (hindex : follower.tagged? = some ("IndexStmt", index)) :
    Alike SameRefusal Eq (applyStatement tables statement')
      (applyStatement tables statement >>= (applyStatement · follower)) := by
  rw [applyStatement_of_createTable hbody, applyStatement_of_createTable hbody',
    createTable_withElement]
  cases htable : createTable tables body with
  | error cause => exact .error (.same cause)
  | ok table =>
    obtain ⟨hname, -⟩ := createTable_stated htable
    have hconstraint : applyElement tables table element =
        coverColumns table (stringsAt constraint "keys") true .setUniqueConstraint := by
      rw [applyElement_of_constraint helement, applyTableConstraint, h.kind]
    have hstatement : applyStatement (tables ++ [table]) follower =
        (tables ++ [·]) <$> coverColumns table (stringsAt constraint "keys") true .createIndex := by
      rw [applyStatement, hindex]
      exact createIndex_of_last h hname (hnew table.name hname)
    show Alike SameRefusal Eq ((tables ++ [·]) <$> applyElement tables table element)
      (applyStatement (tables ++ [table]) follower)
    rw [hconstraint, hstatement]
    refine (coverColumns_purpose table _ true).map ?_
    intro left right hsame
    rw [hsame]

end Forms

/-! ## Scripts -/

/--
**A unique constraint that closes a table statement and a unique index behind it are the same.**
When the name of the table is new, a script with the constraint and a script with the index have
the same tables, or both are refused, with the same error but for the purpose of a column that is
missing.
-/
theorem tablesOf_uniqueForms {first rest : List Json}
    {node node' followerNode statement statement' follower body element constraint index : Json}
    (hstatement : node.get? "RawStmt.stmt" = some statement)
    (hstatement' : node'.get? "RawStmt.stmt" = some statement')
    (hfollower : followerNode.get? "RawStmt.stmt" = some follower)
    (hbody : statement.tagged? = some ("CreateStmt", body))
    (hbody' : statement'.tagged? = some ("CreateStmt", withElement body element))
    (helement : element.tagged? = some ("Constraint", constraint))
    (hindex : follower.tagged? = some ("IndexStmt", index))
    (hsame : SameUnique body constraint index)
    (hnew : ∀ earlier name, statements (.array first) = .ok earlier → relation? body = some name →
      name ∉ createdNames earlier) :
    Alike SameRefusal Eq (tablesOf (.array (first ++ node' :: rest)))
      (tablesOf (.array (first ++ node :: followerNode :: rest))) := by
  have hone : statements (.array [node']) = .ok [statement'] := statements_cons hstatement' []
  have htwo : statements (.array [node, followerNode]) = .ok [statement, follower] :=
    statements_pair hstatement hfollower
  refine tablesOf_alike (R := Eq) hone htwo .same ?_ ?_ ?_
  · intro earlier tables hfirst hearlier
    have hagrees := run_agrees hearlier
    simp only [List.foldlM_cons, List.foldlM_nil, bind_pure]
    refine applyStatement_uniqueForms hsame ?_ helement hbody hbody' hindex
    intro name hname
    exact (hagrees.forall_name_ne_iff name).2 (hnew earlier name hfirst hname)
  · intro left right later hstates
    rw [hstates]
    exact .refl .same (fun _ => rfl) _
  · intro left right hstates
    rw [hstates]

/-- The two forms as they are written out, for any keys. -/
theorem sameUnique_written {name : String} {keys : List String} (hname : name ≠ "")
    (hkeys : keys ≠ []) (elements : List Json) :
    SameUnique (.object [("relation", relationNode name), ("tableElts", .array elements)])
      (.object [("contype", .number (.integer 6)), ("keys", .array (keys.map stringNode))])
      (.object [("indexParams", .array (keys.map indexElement)), ("relation", relationNode name),
        ("unique", .bool true)]) := by
  have hstrings : stringsAt (.object [("contype", .number (.integer 6)),
      ("keys", .array (keys.map stringNode))]) "keys" = keys :=
    stringsAt_of_map (Json.get?_object (by decide))
  constructor
  · rfl
  · rw [relation?_object hname]
    exact relation?_of_get? hname (Json.get?_object (by decide))
  · rfl
  · rw [hstrings]
    exact indexColumns_of_map (Json.get?_object (by decide))
  · rw [hstrings]
    exact hkeys

/-- The posts of the blog without the unique constraint that closes their statement. -/
def openPosts : Json :=
  tableNode "posts"
    [ columnNode "author" "int8" [constraintNode 8 [("pktable", relationNode "users")]]
    , columnNode "slug" "text" []
    , columnNode "title" "text" []
    , constraintNode 5 [("keys", .array [stringNode "author", stringNode "slug"])] ]

/-- The blog has the same tables with a unique index instead of that constraint. -/
theorem blogTree_uniqueForms :
    tablesOf (.array ((blogScript.take 1).map rawNode ++ rawNode openPosts ::
      rawNode (indexNode "posts" [indexElement "slug", indexElement "title"] true) ::
      (blogScript.drop 2).map rawNode)) = .ok blogTables := by
  have hposts := require_eq_ok.1 (require_rawStmt openPosts)
  have hclosed := require_eq_ok.1 (require_rawStmt blogScript[1])
  have hfollower := require_eq_ok.1
    (require_rawStmt (indexNode "posts" [indexElement "slug", indexElement "title"] true))
  have hsame := sameUnique_written (show "posts" ≠ "" by decide)
    (show ["slug", "title"] ≠ [] by decide) (itemsAt (openPosts.lastField?.getD .null) "tableElts")
  have hblog : tablesOf (.array ((blogScript.take 1).map rawNode ++ rawNode blogScript[1] ::
      (blogScript.drop 2).map rawNode)) = .ok blogTables := tablesOf_blogTree
  apply Alike.eq_ok (E := SameRefusal)
  rw [← hblog]
  apply tablesOf_uniqueForms hposts hclosed hfollower rfl rfl rfl rfl hsame
  intro earlier name hearlier hname
  have htake : statements (scriptNode (blogScript.take 1)) = .ok (blogScript.take 1) :=
    statements_scriptNode _
  have husers : earlier = blogScript.take 1 := Except.ok.inj (hearlier.symm.trans htake)
  have hrelation : name = "posts" :=
    Option.some.inj (hname.symm.trans (relation?_object (by decide) _))
  rw [husers, hrelation]
  decide +kernel

end EntSchema.ParseTree
