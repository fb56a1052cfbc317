import EntSchema.Proofs.ParseTree.IndexPairs
import EntSchema.Proofs.ParseTree.Nodes

/-!
# The order of index statements

Two index statements that stand next to each other may be exchanged: the script is accepted in
both orders or in none. What comes out is the same too, with one exception. When both are about
one table, both over several columns, and both unique or both not, the order of their two entries
is the order of the statements (`SameClass`), and all else is as before (`Exchanged`).

What the two statements do by themselves is said in the module about pairs of them. Here it is
carried through the rest of the script. No later statement can tell the two runs apart, because a
table statement sees only what is settled about the tables, and an index statement looks at names
of tables and columns and otherwise only adds to what is there. Finishing the tables puts the
entries of two classes into one order, and leaves the order within a class.

## Main results

* `Exchanged.applyStatement` — no statement can tell exchanged entries apart.
* `createIndex_exchanged` — two index statements of one class.
* `tablesOf_indexOrder` — a script with two index statements in both orders, and with one repeated.
-/

namespace EntSchema.ParseTree

open Relational Fold

/-! ## Two entries exchanged -/

/-- Two neighbouring indexes of a table of that name are exchanged. Of the indexes in front of them,
`known` are those of the class of the first one. -/
inductive ExchangedIn (name : String) (known : List Index) (index index' : Index) :
    Table → Table → Prop
  | neighbours {table : Table} {before after : List Index} (hname : table.name = name)
      (hknown : before.filter (·.isUnique = index.isUnique) = known) :
      ExchangedIn name known index index'
        { table with indexes := before ++ index :: index' :: after }
        { table with indexes := before ++ index' :: index :: after }

/-- Two neighbouring indexes of the first table of a name are exchanged, and the tables are the
same otherwise. -/
inductive Exchanged (name : String) (known : List Index) (index index' : Index) :
    List Table → List Table → Prop
  | here {table table' : Table} {rest : List Table}
      (h : ExchangedIn name known index index' table table') :
      Exchanged name known index index' (table :: rest) (table' :: rest)
  | behind {first : Table} {left right : List Table} (hfirst : first.name ≠ name)
      (h : Exchanged name known index index' left right) :
      Exchanged name known index index' (first :: left) (first :: right)

section ExchangedIn

variable {name : String} {known : List Index} {index index' : Index} {left right : Table}

theorem ExchangedIn.settled (h : ExchangedIn name known index index' left right) :
    left.settled = right.settled := by
  cases h with
  | neighbours hname hknown => rfl

/-- Neighbours of one class stay neighbours when the table is finished. -/
theorem ExchangedIn.finalize (h : ExchangedIn name known index index' left right)
    (hclass : index.isUnique = index'.isUnique) :
    ExchangedIn name known index index' left.finalize right.finalize := by
  cases h with
  | @neighbours table before after hname hknown =>
    obtain ⟨front, back, hleft, hright, hfront⟩ :=
      exists_uniqueFirst_neighbours hclass before after
    simp only [Table.finalize, hleft, hright]
    exact .neighbours hname (hfront.trans hknown)

/-- A new entry comes behind both. -/
theorem ExchangedIn.addIndex (h : ExchangedIn name known index index' left right)
    (added : Index) :
    ExchangedIn name known index index' (left.addIndex added) (right.addIndex added) := by
  cases h with
  | @neighbours table before after hname hknown =>
    simp only [Table.addIndex, List.append_assoc, List.cons_append]
    exact .neighbours hname hknown

/-- Changing a column does not see the order of the indexes. -/
theorem ExchangedIn.changeColumn (h : ExchangedIn name known index index' left right)
    (column : String) (purpose : Purpose) (change : Column → Column) :
    Alike Eq (ExchangedIn name known index index') (changeColumn left column purpose change)
      (changeColumn right column purpose change) := by
  cases h with
  | @neighbours table before after hname hknown =>
    have hchange : ∀ indexes, ({ table with indexes } : Table).changeColumn? column change =
        (table.changeColumn? column change).map ({ · with indexes }) :=
      table.changeColumn?_setIndexes
    rw [ParseTree.changeColumn, ParseTree.changeColumn,
      hchange (before ++ index :: index' :: after), hchange (before ++ index' :: index :: after)]
    cases hfound : table.changeColumn? column change with
    | none => exact .error rfl
    | some changed =>
      have hkept : changed.name = name := (Table.name_of_changeColumn? hfound).trans hname
      exact .ok (.neighbours hkept hknown)

theorem ExchangedIn.addStatementIndex (h : ExchangedIn name known index index' left right)
    (body : Json) :
    Alike Eq (ExchangedIn name known index index') (addStatementIndex body left)
      (addStatementIndex body right) := by
  rw [ParseTree.addStatementIndex, ParseTree.addStatementIndex]
  cases indexColumns body with
  | nil => exact .error rfl
  | cons column rest =>
    cases rest with
    | nil => exact h.changeColumn column .createIndex _
    | cons second rest => exact .ok (h.addIndex _)

end ExchangedIn

section Exchanged

variable {name : String} {known : List Index} {index index' : Index} {left right : List Table}

theorem Exchanged.settled (h : Exchanged name known index index' left right) :
    left.map (·.settled) = right.map (·.settled) := by
  induction h with
  | here h => rw [List.map_cons, List.map_cons, h.settled]
  | behind hfirst h ih => rw [List.map_cons, List.map_cons, ih]

theorem Exchanged.append (h : Exchanged name known index index' left right) (table : Table) :
    Exchanged name known index index' (left ++ [table]) (right ++ [table]) := by
  induction h with
  | here h => exact .here h
  | behind hfirst h ih => exact .behind hfirst ih

theorem Exchanged.finished (h : Exchanged name known index index' left right)
    (hclass : index.isUnique = index'.isUnique) :
    Exchanged name known index index' (finished left) (finished right) := by
  induction h with
  | here h => exact .here (h.finalize hclass)
  | behind hfirst h ih => exact .behind hfirst ih

/-- An index statement does the same to both lists of tables. -/
theorem Exchanged.changeTable (h : Exchanged name known index index' left right) (body : Json)
    (other : String) :
    Alike Eq (Exchanged name known index index')
      (changeTable other (addStatementIndex body) left)
      (changeTable other (addStatementIndex body) right) := by
  -- Down to the table with the exchanged entries both lists have the same tables, and the one that
  -- is looked for may stand in front of it, be it, or stand behind it.
  induction h with
  | @here table table' rest h =>
    have hname : table'.name = table.name := (Table.name_eq_of_settled h.settled).symm
    by_cases hother : table.name = other
    · rw [changeTable_cons_of_eq hother, changeTable_cons_of_eq (hname.trans hother)]
      refine (h.addStatementIndex body).map ?_
      intro changed changed' h'
      exact .here h'
    · rw [changeTable_cons_of_ne hother, changeTable_cons_of_ne (hname.trans_ne hother)]
      refine Alike.map (.refl (fun _ => rfl) (fun _ => rfl) _) ?_
      intro later later' heq
      rw [heq]
      exact .here h
  | @behind first left right hfirst h ih =>
    by_cases hother : first.name = other
    · rw [changeTable_cons_of_eq hother, changeTable_cons_of_eq hother]
      cases hchange : addStatementIndex body first with
      | error cause => exact .error rfl
      | ok changed =>
        have hchanged : changed.name ≠ name := by
          rw [addStatementIndex_keepsName body first changed hchange]
          exact hfirst
        exact .ok (.behind hchanged h)
    · rw [changeTable_cons_of_ne hother, changeTable_cons_of_ne hother]
      refine ih.map ?_
      intro left' right' h'
      exact .behind hfirst h'

/-- **No statement can tell exchanged entries apart.** -/
theorem Exchanged.applyStatement (h : Exchanged name known index index' left right)
    (statement : Json) :
    Alike Eq (Exchanged name known index index') (applyStatement left statement)
      (applyStatement right statement) := by
  rw [ParseTree.applyStatement, ParseTree.applyStatement]
  split
  · rename_i body htag
    rw [createTable_congr h.settled]
    cases createTable right body with
    | error cause => exact .error rfl
    | ok table => exact .ok (h.append table)
  · rename_i body htag
    rw [createIndex, createIndex]
    cases relationName body with
    | error cause => exact .error rfl
    | ok other => exact h.changeTable body other
  · exact .ok h

end Exchanged

/-! ## Two entries of one class -/

section SameClass

variable {body body' : Json} {name : String} {index index' : Index}

/-- Two index statements of one class put their entries behind those of the table, each in its
turn. -/
theorem createIndex_exchanged (hclass : SameClass body body' name index index')
    (tables : List Table) :
    Alike (fun _ _ => True)
      (fun left right => ∃ table, tables.find? (·.name = name) = some table ∧
        Exchanged name (table.indexes.filter (·.isUnique = index.isUnique)) index index'
          left right)
      (createIndex tables body >>= (createIndex · body'))
      (createIndex tables body' >>= (createIndex · body)) := by
  have hboth : ∀ table, addStatementIndex body table >>= addStatementIndex body' =
      .ok ((table.addIndex index).addIndex index') := by
    intro table
    rw [addStatementIndex_of_entry hclass.entry]
    exact addStatementIndex_of_entry hclass.entry' _
  have hboth' : ∀ table, addStatementIndex body' table >>= addStatementIndex body =
      .ok ((table.addIndex index').addIndex index) := by
    intro table
    rw [addStatementIndex_of_entry hclass.entry']
    exact addStatementIndex_of_entry hclass.entry _
  simp only [createIndex_of_relation hclass.relation, createIndex_of_relation hclass.relation']
  rw [changeTable_bind (addStatementIndex_keepsName body),
    changeTable_bind (addStatementIndex_keepsName body'), funext hboth, funext hboth']
  induction tables with
  | nil => exact .error trivial
  | cons first rest ih =>
    by_cases hname : first.name = name
    · rw [changeTable_cons_of_eq hname, changeTable_cons_of_eq hname]
      refine .ok ⟨first, List.find?_cons_of_pos (by simpa using hname), .here ?_⟩
      simp only [Table.addIndex, List.append_assoc, List.singleton_append]
      exact .neighbours hname rfl
    · rw [changeTable_cons_of_ne hname, changeTable_cons_of_ne hname]
      refine ih.map ?_
      rintro left right ⟨table, hfound, h⟩
      exact ⟨table, (List.find?_cons_of_neg (by simpa using hname)).trans hfound,
        .behind hname h⟩

end SameClass

/-! ## Scripts -/

/-- The tables of a script with two index statements behind its beginning, and of the script with
the two in the other order. They are the same, unless the statements are of one class. Then the
entries of the statements are exchanged, which stand behind those of their class that the beginning
declares. -/
inductive Reordered (first : List Json) (body body' : Json) : List Table → List Table → Prop
  | same {tables : List Table}
      (hclass : ¬∃ name index index', SameClass body body' name index index') :
      Reordered first body body' tables tables
  | exchanged {name : String} {index index' : Index} {tables left right : List Table}
      {table : Table} (hclass : SameClass body body' name index index')
      (hfirst : tablesOf (.array first) = .ok tables)
      (htable : tables.find? (·.name = name) = some table)
      (h : Exchanged name (table.indexes.filter (·.isUnique = index.isUnique)) index index'
        left right) :
      Reordered first body body' left right

/-- No later statement changes how the tables differ. -/
theorem Reordered.applyStatement {first : List Json} {body body' : Json} {left right : List Table}
    (h : Reordered first body body' left right) (statement : Json) :
    Alike Eq (Reordered first body body') (applyStatement left statement)
      (applyStatement right statement) := by
  cases h with
  | same hclass => exact .refl (fun _ => rfl) (fun _ => .same hclass) _
  | exchanged hclass hfirst htable h =>
    refine (h.applyStatement statement).mono (fun _ _ h => h) ?_
    intro left' right' h'
    exact .exchanged hclass hfirst htable h'

theorem Reordered.finished {first : List Json} {body body' : Json} {left right : List Table}
    (h : Reordered first body body' left right) :
    Reordered first body body' (finished left) (finished right) := by
  cases h with
  | same hclass => exact .same hclass
  | exchanged hclass hfirst htable h =>
    exact .exchanged hclass hfirst htable (h.finished hclass.unique)

section Script

variable {first rest : List Json} {node node' statement statement' body body' : Json}

/-- Two index statements next to each other are read one after the other. -/
theorem foldlM_createIndex (hbody : statement.tagged? = some ("IndexStmt", body))
    (hbody' : statement'.tagged? = some ("IndexStmt", body')) (tables : List Table) :
    [statement, statement'].foldlM applyStatement tables =
      createIndex tables body >>= (createIndex · body') := by
  simp only [List.foldlM_cons, List.foldlM_nil, bind_pure, applyStatement_of_createIndex hbody,
    applyStatement_of_createIndex hbody']

/-- Index statements that are not of one class may be exchanged. -/
theorem tablesOf_exchange (hstatement : node.get? "RawStmt.stmt" = some statement)
    (hstatement' : node'.get? "RawStmt.stmt" = some statement')
    (hbody : statement.tagged? = some ("IndexStmt", body))
    (hbody' : statement'.tagged? = some ("IndexStmt", body'))
    (hclass : ¬∃ name index index', SameClass body body' name index index') :
    Alike (fun _ _ => True) Eq (tablesOf (.array (first ++ node :: node' :: rest)))
      (tablesOf (.array (first ++ node' :: node :: rest))) := by
  -- Equality cannot be carried through the rest: entries of two classes are not in one order before
  -- the tables are finished.
  refine tablesOf_alike (R := fun left right => finished left = finished right)
    (statements_pair hstatement hstatement') (statements_pair hstatement' hstatement)
    (fun _ => trivial) ?_ ?_ ?_
  · intro earlier tables hfirst hearlier
    rw [foldlM_createIndex hbody hbody', foldlM_createIndex hbody' hbody]
    exact createIndex_comm hclass tables
  · intro left right later h
    exact (applyStatement_of_finished h later).mono (fun _ _ _ => trivial) fun _ _ h => h
  · intro left right h
    exact h

/-- Index statements of one class may be exchanged when their entries are. -/
theorem tablesOf_exchange_sameClass (hstatement : node.get? "RawStmt.stmt" = some statement)
    (hstatement' : node'.get? "RawStmt.stmt" = some statement')
    (hbody : statement.tagged? = some ("IndexStmt", body))
    (hbody' : statement'.tagged? = some ("IndexStmt", body')) {name : String}
    {index index' : Index} (hclass : SameClass body body' name index index') :
    Alike (fun _ _ => True) (Reordered first body body')
      (tablesOf (.array (first ++ node :: node' :: rest)))
      (tablesOf (.array (first ++ node' :: node :: rest))) := by
  refine tablesOf_alike (R := Reordered first body body') (statements_pair hstatement hstatement')
    (statements_pair hstatement' hstatement) (fun _ => trivial) ?_ ?_ ?_
  · intro earlier tables hfirst hearlier
    have htables : tablesOf (.array first) = .ok (finished tables) :=
      tablesOf_eq_ok.2 ⟨earlier, tables, hfirst, hearlier, rfl⟩
    rw [foldlM_createIndex hbody hbody', foldlM_createIndex hbody' hbody]
    refine (createIndex_exchanged hclass tables).mono (fun _ _ h => h) ?_
    rintro left right ⟨table, hfound, h⟩
    rw [← filter_class_uniqueFirst] at h
    exact .exchanged hclass htables (find?_finished hfound) h
  · intro left right later h
    exact (h.applyStatement later).mono (fun _ _ _ => trivial) fun _ _ h => h
  · intro left right h
    exact h.finished

/--
**Index statements commute.** Two index statements that stand next to each other may be exchanged:
the script is accepted in both orders or in none, and has the same tables in both, but for the
order of two entries of one class in one table. An index statement over a single column may be
repeated, and nothing changes.
-/
theorem tablesOf_indexOrder (hstatement : node.get? "RawStmt.stmt" = some statement)
    (hstatement' : node'.get? "RawStmt.stmt" = some statement')
    (hbody : statement.tagged? = some ("IndexStmt", body))
    (hbody' : statement'.tagged? = some ("IndexStmt", body')) :
    Alike (fun _ _ => True) (Reordered first body body')
        (tablesOf (.array (first ++ node :: node' :: rest)))
        (tablesOf (.array (first ++ node' :: node :: rest))) ∧
      ((indexColumns body).length ≤ 1 →
        tablesOf (.array (first ++ node :: node :: rest)) =
          tablesOf (.array (first ++ node :: rest))) := by
  constructor
  · by_cases hclass : ∃ name index index', SameClass body body' name index index'
    · obtain ⟨name, index, index', hclass⟩ := hclass
      exact tablesOf_exchange_sameClass hstatement hstatement' hbody hbody' hclass
    · refine (tablesOf_exchange hstatement hstatement' hbody hbody' hclass).mono
        (fun _ _ h => h) ?_
      intro left right h
      rw [h]
      exact .same hclass
  · intro hsingle
    have hone : statements (.array [node]) = .ok [statement] := statements_cons hstatement []
    have htwice := statements_pair hstatement hstatement
    refine alike_eq_iff.1 (tablesOf_alike (R := Eq) htwice hone (fun _ => rfl) ?_ ?_ ?_)
    · intro earlier tables hfirst hearlier
      rw [foldlM_createIndex hbody hbody, createIndex_twice hsingle, List.foldlM_cons,
        applyStatement_of_createIndex hbody]
      exact .of_eq (fun _ => rfl) (fun _ => rfl) (bind_pure _).symm
    · intro left right later heq
      rw [heq]
      exact .refl (fun _ => rfl) (fun _ => rfl) _
    · intro left right heq
      rw [heq]

end Script

/-- An index over the slugs and authors of posts, as the one over their titles and authors not
unique. -/
def slugAuthorIndex : Json :=
  indexNode "posts" [indexElement "slug", indexElement "author"] false

/-- The blog with two statements in the place of its first index statement. -/
def blogWith (statement statement' : Json) : Json :=
  .array ((blogScript.take 2).map rawNode ++ rawNode statement :: rawNode statement' ::
    (blogScript.drop 3).map rawNode)

/-- The tables of the blog with other entries behind the unique indexes of posts. -/
def blogTablesWith (entries : List Index) : List Table :=
  blogTables.modify 1 fun posts => { posts with indexes := posts.indexes.take 2 ++ entries }

/-- In the blog, two indexes of posts in both orders, and the index of users twice. -/
theorem blogTree_indexOrder :
    tablesOf (blogWith blogScript[2] slugAuthorIndex) =
      .ok (blogTablesWith [⟨["title", "author"], false⟩, ⟨["slug", "author"], false⟩]) ∧
    tablesOf (blogWith slugAuthorIndex blogScript[2]) =
      .ok (blogTablesWith [⟨["slug", "author"], false⟩, ⟨["title", "author"], false⟩]) ∧
    (∃ body body', blogScript[2].tagged? = some ("IndexStmt", body) ∧
      slugAuthorIndex.tagged? = some ("IndexStmt", body') ∧
      Reordered ((blogScript.take 2).map rawNode) body body'
        (blogTablesWith [⟨["title", "author"], false⟩, ⟨["slug", "author"], false⟩])
        (blogTablesWith [⟨["slug", "author"], false⟩, ⟨["title", "author"], false⟩])) ∧
    tablesOf (.array ((blogScript.take 4).map rawNode ++
      [rawNode blogScript[4], rawNode blogScript[4]])) = .ok blogTables := by
  have hleft : tablesOf (blogWith blogScript[2] slugAuthorIndex) =
      .ok (blogTablesWith [⟨["title", "author"], false⟩, ⟨["slug", "author"], false⟩]) := by
    decide +kernel
  have hright : tablesOf (blogWith slugAuthorIndex blogScript[2]) =
      .ok (blogTablesWith [⟨["slug", "author"], false⟩, ⟨["title", "author"], false⟩]) := by
    decide +kernel
  have htitle := require_eq_ok.1 (require_rawStmt blogScript[2])
  have hslug := require_eq_ok.1 (require_rawStmt slugAuthorIndex)
  have hnick := require_eq_ok.1 (require_rawStmt blogScript[4])
  refine ⟨hleft, hright, ⟨_, _, rfl, rfl, ?_⟩, ?_⟩
  · have hboth : Alike (fun _ _ => True) _ (tablesOf (blogWith blogScript[2] slugAuthorIndex))
        (tablesOf (blogWith slugAuthorIndex blogScript[2])) :=
      (tablesOf_indexOrder htitle hslug rfl rfl).1
    rw [hleft, hright] at hboth
    cases hboth with
    | ok h => exact h
  · have htwice : tablesOf (.array ((blogScript.take 4).map rawNode ++
        rawNode blogScript[4] :: rawNode blogScript[4] :: [])) =
          tablesOf (.array ((blogScript.take 4).map rawNode ++ rawNode blogScript[4] :: [])) :=
      (tablesOf_indexOrder hnick hnick rfl rfl).2 (by decide +kernel)
    exact htwice.trans tablesOf_blogTree

end EntSchema.ParseTree
