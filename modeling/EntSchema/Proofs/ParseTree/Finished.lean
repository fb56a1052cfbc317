import EntSchema.Proofs.Alike
import EntSchema.Proofs.ParseTree.Steps
import EntSchema.Proofs.Relational.Finalize
import EntSchema.Proofs.Relational.Settled

/-!
# Finishing tables during a walk

A table statement reads the tables before it, because a foreign key may point at one of them, and
an index statement changes one of them. Both see only what finishing a table leaves alone. So the
tables may be finished after every statement instead of once at the end (`tablesOf_eq_foldlM`).

Then the walk is a fold of statements over finished tables and nothing else, and a script can be
taken up again where an accepted beginning of it has ended (`tablesOf_append`).

## Main results

* `createTable_congr` — a table statement sees only what is settled about the tables before it.
* `finished_applyStatement` — finishing the tables first does not change what a statement does.
* `tablesOf_replace` — a statement may be replaced by one that does the same.
* `tablesOf_append` — an accepted beginning of a script is taken up by the rest.
-/

namespace EntSchema.ParseTree

open Relational Fold

/-! ## What a table statement sees of other tables -/

/-- The implicit target is the key of the first table, if it has the name and a key. -/
theorem implicitTarget_cons (name : String) (table : Table) (tables : List Table) :
    implicitTarget name (table :: tables) =
      ((if table.name = name then table.keyName? else none).getD (implicitTarget name tables)) := by
  by_cases hname : table.name = name
  · simp only [implicitTarget, primaryColumn?, Table.keyName?, hname, List.filter_cons,
      decide_true, if_true, List.flatMap_cons, List.find?_append]
    cases table.columns.find? (·.isPrimary) with
    | none => rfl
    | some column => rfl
  · simp [implicitTarget, primaryColumn?, hname]

section Implicit

variable {name : String} {table : Table} {tables front : List Table}

/-- A table of another name, or without a key, is passed over. -/
theorem implicitTarget_cons_of_none (h : table.name = name → table.keyName? = none) :
    implicitTarget name (table :: tables) = implicitTarget name tables := by
  rw [implicitTarget_cons]
  by_cases hname : table.name = name
  · rw [if_pos hname, h hname]
    rfl
  · rw [if_neg hname]
    rfl

theorem implicitTarget_append_of_none
    (h : ∀ earlier ∈ front, earlier.name = name → earlier.keyName? = none) :
    implicitTarget name (front ++ tables) = implicitTarget name tables := by
  induction front with
  | nil => rfl
  | cons earlier rest ih =>
    obtain ⟨hearlier, hrest⟩ := List.forall_mem_cons.1 h
    rw [List.cons_append, implicitTarget_cons_of_none hearlier, ih hrest]

theorem implicitTarget_cons_of_key {column : String} (hname : table.name = name)
    (hkey : table.keyName? = some column) :
    implicitTarget name (table :: tables) = column := by
  rw [implicitTarget_cons, if_pos hname, hkey]
  rfl

end Implicit

theorem implicitTarget_settled (name : String) (tables : List Table) :
    implicitTarget name (tables.map (·.settled)) = implicitTarget name tables := by
  induction tables with
  | nil => rfl
  | cons table rest ih =>
    rw [List.map_cons, implicitTarget_cons, implicitTarget_cons, ih, Table.name_settled,
      Table.keyName?_settled]

section Congr

variable {tables others : List Table}

theorem foreignKeyTarget_of_settled (h : tables.map (·.settled) = others.map (·.settled)) :
    foreignKeyTarget tables = foreignKeyTarget others := by
  funext current constraint
  refine foreignKeyTarget_congr fun _ name _ => ?_
  rw [implicitTarget_cons, implicitTarget_cons, ← implicitTarget_settled name tables, h,
    implicitTarget_settled]

theorem applyElement_congr (h : tables.map (·.settled) = others.map (·.settled)) :
    applyElement tables = applyElement others := by
  have htarget := foreignKeyTarget_of_settled h
  have hcolumn : applyColumnConstraint tables = applyColumnConstraint others := by
    funext current column element
    simp only [applyColumnConstraint, htarget]
  have hconstraint : applyTableConstraint tables = applyTableConstraint others := by
    funext table constraint
    simp only [applyTableConstraint, htarget]
  funext table element
  simp only [applyElement, readColumn, hcolumn, hconstraint]

/-- **A table statement sees only what is settled** about the tables before it. -/
theorem createTable_congr (h : tables.map (·.settled) = others.map (·.settled)) :
    createTable tables = createTable others := by
  funext statement
  rw [createTable, createTable, applyElement_congr h]

end Congr

/-! ## Finishing early -/

/-- The tables, each with its unique indexes in front. -/
def finished (tables : List Table) : List Table := tables.map (·.finalize)

@[simp] theorem finished_nil : finished [] = [] := rfl

@[simp] theorem finished_cons (table : Table) (tables : List Table) :
    finished (table :: tables) = table.finalize :: finished tables := rfl

@[simp] theorem finished_append (first second : List Table) :
    finished (first ++ second) = finished first ++ finished second :=
  List.map_append

@[simp] theorem finished_finished (tables : List Table) :
    finished (finished tables) = finished tables := by
  simp [finished]

theorem settled_finished (tables : List Table) :
    (finished tables).map (·.settled) = tables.map (·.settled) := by
  simp [finished]

/-- The first table of a name stays the first one when the tables are finished. -/
theorem find?_finished {tables : List Table} {table : Table} {name : String}
    (h : tables.find? (·.name = name) = some table) :
    (finished tables).find? (·.name = name) = some table.finalize := by
  rw [finished, List.find?_map]
  exact Option.map_eq_some_iff.2 ⟨table, h, rfl⟩

theorem coverColumns_finalize (table : Table) (columns : List String) (isUnique : Bool)
    (purpose : Purpose) :
    (·.finalize) <$> coverColumns table.finalize columns isUnique purpose =
      (·.finalize) <$> coverColumns table columns isUnique purpose := by
  match columns with
  | [] => exact congrArg Except.ok table.finalize_finalize
  | [name] =>
    simp only [coverColumns, changeColumn, Table.changeColumn?_finalize]
    cases table.changeColumn? name (·.markUnique isUnique) with
    | none => rfl
    | some changed => exact congrArg Except.ok changed.finalize_finalize
  | first :: second :: rest => exact congrArg Except.ok (table.finalize_addIndex _)

theorem addStatementIndex_finalize (statement : Json) (table : Table) :
    (·.finalize) <$> addStatementIndex statement table.finalize =
      (·.finalize) <$> addStatementIndex statement table := by
  rw [addStatementIndex, addStatementIndex]
  split
  · rfl
  · exact coverColumns_finalize table _ _ _

theorem changeTable_finished {name : String} {change : Table → Except ParseError Table}
    (hchange : ∀ table, (·.finalize) <$> change table.finalize = (·.finalize) <$> change table)
    (tables : List Table) :
    finished <$> changeTable name change (finished tables) =
      finished <$> changeTable name change tables := by
  induction tables with
  | nil => rfl
  | cons table rest ih =>
    rw [finished_cons]
    by_cases hsame : table.name = name
    · have hhead : ∀ (action : Except ParseError Table) (tail : List Table),
          finished <$> (· :: tail) <$> action = (· :: finished tail) <$> (·.finalize) <$> action := by
        intro action tail
        cases action <;> rfl
      have hfinished : table.finalize.name = name := hsame
      rw [changeTable_cons_of_eq hfinished, changeTable_cons_of_eq hsame, hhead, hhead, hchange,
        finished_finished]
    · have htail : ∀ (head : Table) (action : Except ParseError (List Table)),
          finished <$> (head :: ·) <$> action = (head.finalize :: ·) <$> finished <$> action := by
        intro head action
        cases action <;> rfl
      have hfinished : table.finalize.name ≠ name := hsame
      rw [changeTable_cons_of_ne hfinished, changeTable_cons_of_ne hsame, htail, htail, ih,
        Table.finalize_finalize]

/-- The finished tables after one more statement. -/
def applyFinished (tables : List Table) (statement : Json) : Except ParseError (List Table) :=
  finished <$> applyStatement tables statement

/-- **Finishing the tables first** does not change what a statement does to them. -/
theorem finished_applyStatement (tables : List Table) (statement : Json) :
    applyFinished (finished tables) statement = finished <$> applyStatement tables statement := by
  rw [applyFinished, applyStatement, applyStatement]
  split
  · rename_i body htag
    rw [createTable_congr (settled_finished tables)]
    cases createTable tables body with
    | error cause => rfl
    | ok table =>
      show Except.ok (finished (finished tables ++ [table])) =
        Except.ok (finished (tables ++ [table]))
      rw [finished_append, finished_append, finished_finished]
  · rename_i body htag
    rw [createIndex, createIndex]
    cases relationName body with
    | error cause => rfl
    | ok name => exact changeTable_finished (addStatementIndex_finalize body) tables
  · exact congrArg Except.ok (finished_finished tables)

/-- Tables that are the same when they are finished stay so. -/
theorem applyStatement_of_finished {left right : List Table} (h : finished left = finished right)
    (statement : Json) :
    Alike Eq (fun left right => finished left = finished right) (applyStatement left statement)
      (applyStatement right statement) := by
  apply alike_of_map_eq
  rw [← finished_applyStatement, ← finished_applyStatement, h]

/-- A script may be walked with all tables finished after every statement. -/
theorem tablesOf_eq_foldlM (tree : Json) :
    tablesOf tree = statements tree >>= fun script => script.foldlM applyFinished [] := by
  rw [tablesOf]
  cases statements tree with
  | error cause => rfl
  | ok script =>
    show (script.foldlM applyStatement [] >>= fun tables => pure (finished tables)) =
      script.foldlM applyFinished (finished [])
    rw [foldlM_image finished_applyStatement [] script, map_eq_pure_bind]

/-- The tables of a script are finished. -/
theorem finished_of_tablesOf {tree : Json} {tables : List Table} (h : tablesOf tree = .ok tables) :
    finished tables = tables := by
  obtain ⟨script, left, -, -, rfl⟩ := tablesOf_eq_ok.1 h
  exact finished_finished left

/-! ## Taking a script up again -/

section Append

variable {first second script : List Json}

theorem statements_append (first second : List Json) :
    statements (.array (first ++ second)) = do
      return (← statements (.array first)) ++ (← statements (.array second)) :=
  List.mapM_append

theorem statements_cons {element statement : Json}
    (h : element.get? "RawStmt.stmt" = some statement) (rest : List Json) :
    statements (.array (element :: rest)) = (statement :: ·) <$> statements (.array rest) := by
  rw [statements, statements, List.mapM_cons, require_eq_ok.2 h]
  cases rest.mapM (require · "RawStmt.stmt") <;> rfl

theorem statements_pair {element element' statement statement' : Json}
    (h : element.get? "RawStmt.stmt" = some statement)
    (h' : element'.get? "RawStmt.stmt" = some statement') :
    statements (.array [element, element']) = .ok [statement, statement'] := by
  rw [statements_cons h, statements_cons h']
  rfl

/--
**Two scripts that differ in some elements** end alike. What is needed is that the statements in
question end alike behind any beginning of the script, and that every later statement keeps the
tables related.
-/
theorem tablesOf_alike {E : ParseError → ParseError → Prop} {R S : List Table → List Table → Prop}
    {middle middle' script script' : List Json}
    (hscript : statements (.array middle) = .ok script)
    (hscript' : statements (.array middle') = .ok script') (hE : ∀ cause, E cause cause)
    (hmiddle : ∀ earlier tables, statements (.array first) = .ok earlier →
      earlier.foldlM applyStatement [] = .ok tables →
        Alike E R (script.foldlM applyStatement tables) (script'.foldlM applyStatement tables))
    (hstep : ∀ left right statement, R left right →
      Alike E R (applyStatement left statement) (applyStatement right statement))
    (hfinish : ∀ left right, R left right → S (finished left) (finished right)) :
    Alike E S (tablesOf (.array (first ++ (middle ++ second))))
      (tablesOf (.array (first ++ (middle' ++ second)))) := by
  rw [tablesOf, tablesOf, statements_append, statements_append, statements_append,
    statements_append, hscript, hscript']
  cases hfirst : statements (.array first) with
  | error cause => exact .error (hE cause)
  | ok earlier =>
    cases statements (.array second) with
    | error cause => exact .error (hE cause)
    | ok later =>
      have hrun : Alike E R ((earlier ++ (script ++ later)).foldlM applyStatement [])
          ((earlier ++ (script' ++ later)).foldlM applyStatement []) := by
        simp only [List.foldlM_append]
        cases hearlier : earlier.foldlM applyStatement [] with
        | error cause => exact .error (hE cause)
        | ok tables =>
          refine (hmiddle earlier tables hfirst hearlier).bind ?_
          intro left right h
          exact Alike.foldlM hstep later h
      refine hrun.bind ?_
      intro left right h
      exact .ok (hfinish left right h)

/-- A statement may be replaced by one that does the same to any tables. -/
theorem tablesOf_replace {element element' statement statement' : Json}
    (hstatement : element.get? "RawStmt.stmt" = some statement)
    (hstatement' : element'.get? "RawStmt.stmt" = some statement')
    (hsame : ∀ tables, applyStatement tables statement' = applyStatement tables statement) :
    tablesOf (.array (first ++ element' :: second)) =
      tablesOf (.array (first ++ element :: second)) := by
  have hone : statements (.array [element]) = .ok [statement] := statements_cons hstatement []
  have hone' : statements (.array [element']) = .ok [statement'] := statements_cons hstatement' []
  refine alike_eq_iff.1 (tablesOf_alike (R := Eq) hone' hone (fun _ => rfl) ?_ ?_ ?_)
  · intro earlier tables hfirst hearlier
    rw [List.foldlM_cons, List.foldlM_cons, hsame]
    exact .refl (fun _ => rfl) (fun _ => rfl) _
  · rintro left right statement rfl
    exact .refl (fun _ => rfl) (fun _ => rfl) _
  · rintro left right rfl
    rfl

/-- **An accepted beginning of a script is taken up by the rest**: its tables are all that the
rest needs, finished though they are. -/
theorem tablesOf_append (h : statements (.array second) = .ok script) :
    tablesOf (.array (first ++ second)) =
      tablesOf (.array first) >>= fun tables => script.foldlM applyFinished tables := by
  rw [tablesOf_eq_foldlM, tablesOf_eq_foldlM, statements_append, h]
  cases statements (.array first) with
  | error cause => rfl
  | ok earlier => exact List.foldlM_append

end Append

end EntSchema.ParseTree
