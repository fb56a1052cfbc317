import EntSchema.Proofs.ParseTree.Created
import EntSchema.Proofs.ParseTree.Recorded

/-!
# What a foreign key without columns points at

A foreign key that names a table and no column points at the primary key of that table. When the
table was created before, its primary key is settled, and the foreign key points at the primary key
that the finished tables have. When the table is the one that is being created, only the elements
in front of the foreign key count: a primary key that is declared at or behind it is not known yet,
and the foreign key points at `id` or at the key of an earlier table of the same name.

So there are two readings of the key of the own table, and they agree when no element at or behind
the foreign key declares a primary key. `selfTree` is a table where they do not.

## Main results

* `pointsAtKey_iff` — the lookup that a foreign key makes, said without it.
* `run_keyName?` — elements that declare no primary key leave the first primary column.
* `tablesOf_pointsAtKey` — where every recorded foreign key without columns points.
* `selfTree_pointsElsewhere` — a foreign key to a primary key that is declared behind it.
-/

namespace EntSchema.ParseTree

open Relational Fold

/-! ## The key of a name -/

/-- A column is the first primary column of the first table of a name that has one; and it is `id`
when no table of that name has one. -/
inductive PointsAtKey (name : String) (tables : List Table) : String → Prop
  | key {front back : List Table} {table : Table} {column : String}
      (hsplit : tables = front ++ table :: back) (hname : table.name = name)
      (hfront : ∀ earlier ∈ front, earlier.name = name → earlier.keyName? = none)
      (hkey : table.keyName? = some column) : PointsAtKey name tables column
  | unknown (hnone : ∀ table ∈ tables, table.name = name → table.keyName? = none) :
      PointsAtKey name tables "id"

section Key

variable {name : String} {table : Table} {tables : List Table}

theorem pointsAtKey_cons_of_none (h : table.name = name → table.keyName? = none)
    {column : String} (hrest : PointsAtKey name tables column) :
    PointsAtKey name (table :: tables) column := by
  cases hrest with
  | @key front back found column hsplit hname hfront hkey =>
    have hcons : table :: tables = (table :: front) ++ found :: back :=
      congrArg (table :: ·) hsplit
    exact .key hcons hname (List.forall_mem_cons.2 ⟨h, hfront⟩) hkey
  | unknown hnone => exact .unknown (List.forall_mem_cons.2 ⟨h, hnone⟩)

/-- **The lookup of an implicit target finds the key of the name.** -/
theorem pointsAtKey_iff {column : String} :
    PointsAtKey name tables column ↔ implicitTarget name tables = column := by
  constructor
  · intro h
    cases h with
    | key hsplit hname hfront hkey =>
      rw [hsplit, implicitTarget_append_of_none hfront, implicitTarget_cons_of_key hname hkey]
    | unknown hnone =>
      rw [← tables.append_nil, implicitTarget_append_of_none hnone]
      rfl
  · rintro rfl
    induction tables with
    | nil => exact .unknown (by simp)
    | cons first rest ih =>
      by_cases hnone : first.name = name → first.keyName? = none
      · rw [implicitTarget_cons_of_none hnone]
        exact pointsAtKey_cons_of_none hnone ih
      · rw [Classical.not_imp] at hnone
        obtain ⟨hname, hsome⟩ := hnone
        obtain ⟨column, hkey⟩ := Option.ne_none_iff_exists'.1 hsome
        rw [implicitTarget_cons_of_key hname hkey]
        have hsplit : first :: rest = [] ++ first :: rest := rfl
        exact .key hsplit hname (by simp) hkey

/-- Of the first table, only its name matters, and its key if it has the name. -/
theorem pointsAtKey_congr {other : Table} {column : String} (hname : table.name = other.name)
    (hkey : name = other.name → table.keyName? = other.keyName?) :
    PointsAtKey name (table :: tables) column ↔ PointsAtKey name (other :: tables) column := by
  rw [pointsAtKey_iff, pointsAtKey_iff, implicitTarget_cons, implicitTarget_cons, hname]
  by_cases hsame : other.name = name
  · rw [if_pos hsame, if_pos hsame, hkey hsame.symm]
  · rw [if_neg hsame, if_neg hsame]

end Key

/-! ## Elements that declare a primary key -/

/-- The element declares a primary key, of the column that it defines or beside the columns. -/
def DeclaresKey (element : Json) : Prop :=
  (∃ definition, body? "ColumnDef" element = some definition ∧
    .primaryKey ∈ ownKinds definition) ∨
  ∃ constraint, body? "Constraint" element = some constraint ∧
    ConstraintKind.ofNode? constraint = some .primaryKey

section Declares

variable {tables : List Table} {table changed : Table}

theorem ElementStep.keyName? {element : Json} (h : ElementStep tables table element changed)
    (hkey : ¬DeclaresKey element) : changed.keyName? = table.keyName? := by
  cases h with
  | @column body column htag hcolumn =>
    have hprimary : column.isPrimary = false := by
      by_contra hprimary
      rw [Bool.not_eq_false, (readColumn_flags hcolumn).2.primary] at hprimary
      exact hkey (.inl ⟨body, body?_eq_some.2 htag, hprimary⟩)
    rw [Table.keyName?, Table.keyName?, Table.addColumn, List.find?_append]
    simp [hprimary]
  | @constraint body changed htag hstep =>
    cases hstep with
    | ignored hkind => rfl
    | primaryKey hkind hkeys =>
      exact absurd (.inr ⟨body, body?_eq_some.2 htag, hkind⟩) hkey
    | unique hkind hcover =>
      rw [← Table.keyName?_settled, coverColumns_settled hcover, Table.keyName?_settled]
    | foreignKey hkind htarget hname hchange =>
      exact Table.keyName?_of_changeColumn? (by simp) (by simp) hchange
  | ignored hcolumn hconstraint => rfl

/-- **Elements that declare no primary key leave the first primary column.** -/
theorem run_keyName? {elements : List Json} (hkey : ∀ element ∈ elements, ¬DeclaresKey element)
    (h : elements.foldlM (applyElement tables) table = .ok changed) :
    changed.keyName? = table.keyName? := by
  induction elements generalizing table with
  | nil =>
    cases h
    rfl
  | cons element rest ih =>
    rw [List.foldlM_cons, bind_eq_ok] at h
    obtain ⟨next, hnext, hbehind⟩ := h
    obtain ⟨helement, hrest⟩ := List.forall_mem_cons.1 hkey
    rw [ih hrest hbehind, (applyElement_eq_ok.1 hnext).keyName? helement]

end Declares

/-! ## Recorded foreign keys -/

/-- Where a foreign key without columns points, when it stands in a statement behind the elements
`before` and at the first of `rest`. -/
structure PointsFrom (earlier : List Table) (table : Table) (before rest : List Json)
    (constraint : Json) (key : ForeignKey) : Prop where
  /-- It refers to the table that it names. -/
  table_eq : constraint.nonEmptyText? "pktable.RangeVar.relname" = some key.table
  /-- It points at the key of the own table as it was then, or else at that of an earlier table. -/
  known : ∃ known, before.foldlM (applyElement earlier) { name := table.name } = .ok known ∧
    PointsAtKey key.table (known :: earlier) key.column
  /-- That is the key which the finished tables have, unless the own table gets one later. -/
  final : (key.table = table.name → ∀ element ∈ rest, ¬DeclaresKey element) →
    PointsAtKey key.table (table :: earlier) key.column

/-- The foreign keys of a table are those that its statement records, and those without columns
point at the key of the table that they name. -/
structure ReferencesStated (earlier : List Table) (statement : Json) (table : Table) : Prop where
  source : ∀ place key, table.foreignKeyAt? place = some key →
    ∃ before element after constraint,
      itemsAt statement "tableElts" = before ++ element :: after ∧
      Recorded before element after place constraint
  points : ∀ before element after place constraint,
    itemsAt statement "tableElts" = before ++ element :: after →
    Recorded before element after place constraint → constraint.get? "pk_attrs" = none →
    ∃ key, table.foreignKeyAt? place = some key ∧
      PointsFrom earlier table before (element :: after) constraint key

theorem createTable_referencesStated {tables : List Table} {statement : Json} {table : Table}
    (h : createTable tables statement = .ok table) :
    ReferencesStated tables statement table := by
  obtain ⟨name, -, hfold⟩ := createTable_eq_ok.1 h
  obtain ⟨rfl, -⟩ := run_built hfold
  constructor
  · intro place key hkey
    exact run_source hfold hkey
  · intro before element after place constraint hsplit hrecorded hcolumns
    rw [hsplit] at hfold
    obtain ⟨known, key, hknown, htarget, hkey⟩ := run_recorded hfold hrecorded
    obtain ⟨hname, hcolumn⟩ := foreignKeyTarget_eq_ok.1 htarget
    have hpoints : PointsAtKey key.table (known :: tables) key.column := by
      rcases hcolumn with ⟨columns, hsome, -⟩ | ⟨-, hcolumn⟩
      · rw [hcolumns] at hsome
        cases hsome
      · exact pointsAtKey_iff.2 hcolumn.symm
    refine ⟨key, hkey, hname, ⟨known, hknown, hpoints⟩, ?_⟩
    intro hrest
    refine (pointsAtKey_congr (run_built hknown).1 ?_).1 hpoints
    intro hown
    rw [List.foldlM_append, bind_eq_ok] at hfold
    obtain ⟨middle, hmiddle, hbehind⟩ := hfold
    rw [hknown, Except.ok.injEq] at hmiddle
    subst hmiddle
    exact (run_keyName? (hrest hown) hbehind).symm

/-! ## Every foreign key of a script -/

/-- What is recorded of the foreign keys of a table is settled. -/
theorem ReferencesStated.congr {earlier : List Table} {statement : Json} {created table : Table}
    (h : ReferencesStated earlier statement created) (hsettled : created.settled = table.settled) :
    ReferencesStated earlier statement table := by
  have hname := Table.name_eq_of_settled hsettled
  have hkeyName : created.keyName? = table.keyName? := by
    simpa using congrArg Table.keyName? hsettled
  have hkeyAt : created.foreignKeyAt? = table.foreignKeyAt? := by
    funext place
    simpa using congrArg (·.foreignKeyAt? place) hsettled
  constructor
  · rw [← hkeyAt]
    exact h.source
  · intro before element after place constraint hsplit hrecorded hcolumns
    obtain ⟨key, hkey, hpoints⟩ := h.points before element after place constraint hsplit hrecorded
      hcolumns
    refine ⟨key, hkeyAt ▸ hkey, hpoints.table_eq, hname ▸ hpoints.known, ?_⟩
    intro hrest
    rw [← hname] at hrest
    exact (pointsAtKey_congr hname fun _ => hkeyName).1 (hpoints.final hrest)

/-- **A foreign key without columns points at the key of the table that it names.** Every foreign
key of an accepted script was recorded by a constraint of the statement that created its table. If
that constraint names no column, the foreign key points at the key of the own table as the elements
in front of it have left it, and else at that of the tables created before. This is the key that
the tables of the script have in the end, unless it refers to the own table and an element from
there on declares a primary key. -/
theorem tablesOf_pointsAtKey {tree : Json} {tables : List Table} (h : tablesOf tree = .ok tables) :
    ∃ script, statements tree = .ok script ∧
      ∀ earlier table later, tables = earlier ++ table :: later →
        ∃ statement, (bodies "CreateStmt" script)[earlier.length]? = some statement ∧
          relation? statement = some table.name ∧ ReferencesStated earlier statement table := by
  obtain ⟨script, hscript, hcreated⟩ := tablesOf_created h
  refine ⟨script, hscript, ?_⟩
  intro earlier table later hsplit
  obtain ⟨statement, created, hstatement, htable, hsettled⟩ :=
    hcreated.table earlier table later hsplit
  refine ⟨statement, hstatement, ?_, (createTable_referencesStated htable).congr hsettled⟩
  obtain ⟨hname, -⟩ := createTable_stated htable
  rw [hname, Table.name_eq_of_settled hsettled]

/-- A column that is written out with a foreign key records it, if no other one stands beside the
columns behind it. -/
theorem recorded_columnNode {before after : List Json} {name type : String}
    {fields : List (String × Json)} (hname : name ≠ "")
    (hafter : ∀ later ∈ after,
      (body? "Constraint" later).bind ConstraintKind.ofNode? ≠ some .foreignKey) :
    Recorded before (columnNode name type [constraintNode 8 fields]) after
      (definedNames before).length (.object (("contype", .number (.integer 8)) :: fields)) := by
  have hname' : Json.nonEmptyText? (.object [("colname", .text name),
      ("constraints", .array [constraintNode 8 fields]), ("typeName", typeNode type)]) "colname" =
        some name := by
    rw [Json.nonEmptyText?, Json.get?_object (by decide)]
    simp [Json.text?, hname]
  refine recorded_own rfl hname' ?_ hafter
  have hconstraint : (constraintNode 8 fields).get? "Constraint" =
      some (.object (("contype", .number (.integer 8)) :: fields)) :=
    Json.get?_object (by decide)
  have hkind : ConstraintKind.ofNode?
      (.object (("contype", .number (.integer 8)) :: fields)) = some .foreignKey := by
    rw [ConstraintKind.ofNode?, Json.get?_object (by decide)]
    rfl
  have hlast : lastReference? ([] ++ [constraintNode 8 fields]) = _ :=
    lastReference?_snoc hconstraint
  rw [if_pos hkind] at hlast
  rw [ownReference?, itemsAt_of_get? (Json.get?_object (by decide))]
  exact hlast

/-- The author of a post is a user, by the key that the users have in the end. -/
theorem blogTree_pointsAtKey :
    ∃ users posts key, tablesOf blogTree = .ok [users, posts] ∧
      posts.foreignKeyAt? 0 = some key ∧ key.table = users.name ∧
      PointsAtKey key.table [posts, users] key.column := by
  obtain ⟨script, hscript, hall⟩ := tablesOf_pointsAtKey tablesOf_blogTree
  rw [blogTree, statements_scriptNode, Except.ok.injEq] at hscript
  subst hscript
  obtain ⟨users, posts, htables, husers, hposts⟩ : ∃ users posts, blogTables = [users, posts] ∧
      users.name = "users" ∧ posts.name = "posts" := ⟨_, _, rfl, rfl, rfl⟩
  obtain ⟨statement, hstatement, -, hstated⟩ := hall [users] posts [] htables
  obtain ⟨after, helements, hafter⟩ : ∃ after, itemsAt statement "tableElts" = [] ++
      columnNode "author" "int8" [constraintNode 8 [("pktable", relationNode "users")]] :: after ∧
        ∀ later ∈ after,
          (body? "Constraint" later).bind ConstraintKind.ofNode? ≠ some .foreignKey := by
    cases hstatement
    refine ⟨_, itemsAt_of_get? (Json.get?_object (by decide)), ?_⟩
    decide +kernel
  obtain ⟨key, hkey, hpoints⟩ := hstated.points _ _ _ _ _ helements
    (recorded_columnNode (by decide) hafter) (by decide +kernel)
  have htable : key.table = "users" := by
    have hnamed : Json.nonEmptyText? (.object [("contype", .number (.integer 8)),
        ("pktable", relationNode "users")]) "pktable.RangeVar.relname" = some "users" := by
      decide +kernel
    exact Option.some.inj (hpoints.table_eq.symm.trans hnamed)
  refine ⟨users, posts, key, htables ▸ tablesOf_blogTree, hkey, htable.trans husers.symm, ?_⟩
  refine hpoints.final ?_
  intro hsame
  rw [htable, hposts] at hsame
  exact absurd hsame (by decide)

/-! ## A key behind the foreign key -/

/-- Nodes with a parent, and with a primary key that is declared behind the parent. -/
def selfElements : List Json :=
  [ columnNode "parent" "int8" [constraintNode 8 [("pktable", relationNode "nodes")]]
  , columnNode "code" "int8" [constraintNode 5 []] ]

/-- The tree that creates the table of `selfElements`. -/
def selfTree : Json := scriptNode [tableNode "nodes" selfElements]

/-- The table of `selfTree`. -/
def selfTable : Table :=
  { name := "nodes"
    columns :=
      [ { name := "parent", type := "int8", foreignKey := some ⟨"nodes", "id"⟩ }
      , { name := "code", type := "int8", isPrimary := true, isNotNull := true } ] }

/-- The parent points at `id`, which is not the primary key of the nodes, nor a column at all. -/
theorem selfTree_pointsElsewhere :
    tablesOf selfTree = .ok [selfTable] ∧
      (∃ element after constraint, selfElements = [] ++ element :: after ∧
        Recorded [] element after 0 constraint ∧ constraint.get? "pk_attrs" = none ∧
        constraint.nonEmptyText? "pktable.RangeVar.relname" = some selfTable.name) ∧
      selfTable.foreignKeyAt? 0 = some ⟨selfTable.name, "id"⟩ ∧
      PointsAtKey selfTable.name [selfTable] "code" ∧
      ¬PointsAtKey selfTable.name [selfTable] "id" := by
  refine ⟨by decide +kernel, ?_, rfl, ?_, ?_⟩
  · refine ⟨_, _, _, rfl, recorded_columnNode (by decide) ?_, ?_, ?_⟩
    · decide +kernel
    · rw [Json.get?_object (by decide)]
      rfl
    · decide +kernel
  · rw [pointsAtKey_iff]
    decide +kernel
  · rw [pointsAtKey_iff]
    decide +kernel

end EntSchema.ParseTree
