import EntSchema.Proofs.ParseTree.Marks
import EntSchema.Proofs.ParseTree.Nodes
import Mathlib.Data.List.Forall2

/-!
# The keys and indexes of a table are those that the script states

A column is primary, not null or unique, and a table has an index, exactly when the script says
so somewhere: at the column, beside the columns, or in an index statement that may come any time
later. The walk neither loses a declaration nor invents one.

`TableStated` is the invariant. It compares a table with the elements of its statement that have
been applied and with the index statements on it so far, so one definition serves both the table
under construction and the finished table. Of several tables with one name only the first is ever
found again. `Namesakes` says this for the tables of one name: index statements count for the
first of them and for no other.

## Main results

* `readColumn_flags` — the flags of a column that has just been defined.
* `createTable_stated` — a new table agrees with its statement.
* `run_agrees` — a run agrees with the script, name by name.
* `tablesOf_accounting` — the accounting of an accepted script.
-/

namespace EntSchema.ParseTree

open Relational Fold

variable {tables : List Table} {current table changed : Table}

/-! ## Columns and their own constraints -/

/-- What the constraints of some kinds at a column say about its flags. -/
structure OwnFlags (kinds : List ConstraintKind) (column : Column) : Prop where
  primary : column.isPrimary = true ↔ .primaryKey ∈ kinds
  notNull : column.isNotNull = true ↔ column.isPrimary = true ∨ .notNull ∈ kinds
  unique : column.isUnique = true ↔ .unique ∈ kinds

theorem OwnFlags.step {kinds : List ConstraintKind} {constraint : Json} {column next : Column}
    (h : OwnFlags kinds column) (hstep : ColumnStep tables current constraint column next) :
    OwnFlags (kinds ++ (ConstraintKind.ofNode? constraint).toList) next := by
  obtain ⟨hprimary, hnotNull, hunique⟩ := h
  cases hstep with
  | ignored hkind => constructor <;> simp [hkind, hprimary, hnotNull, hunique]
  | notNull hkind => constructor <;> simp [hkind, hprimary, hunique]
  | @default tag body value hkind hexpr hvalue =>
    cases value.isNull <;> constructor <;> simp [hkind, hprimary, hnotNull, hunique]
  | primaryKey hkind => constructor <;> simp [hkind, Column.markPrimary, hunique]
  | unique hkind =>
    constructor <;> simp [hkind, Column.markUnique, hprimary, hnotNull]
  | foreignKey hkind htarget => constructor <;> simp [hkind, hprimary, hnotNull, hunique]

theorem ColumnStep.name {constraint : Json} {column next : Column}
    (h : ColumnStep tables current constraint column next) : next.name = column.name := by
  cases h with
  | @default tag body value hkind hexpr hvalue => cases value.isNull <;> rfl
  | _ => rfl

/-- A column has the name of its definition, and the flags of its own constraints. -/
theorem readColumn_flags {definition : Json} {column : Column}
    (h : readColumn tables current definition = .ok column) :
    definition.nonEmptyText? "colname" = some column.name ∧
      OwnFlags (ownKinds definition) column := by
  obtain ⟨name, node, type, hname, -, -, hfold⟩ := readColumn_eq_ok.1 h
  have hflags := foldlM_history
    (fun past column => column.name = name ∧
      OwnFlags (past.filterMap fun element =>
        (element.get? "Constraint").bind ConstraintKind.ofNode?) column)
    ⟨rfl, by constructor <;> simp⟩ ?_ hfold
  · obtain ⟨hsame, hflags⟩ := hflags
    rw [hname, hsame]
    exact ⟨rfl, hflags⟩
  · rintro past column element next ⟨hsame, hpast⟩ hnext
    obtain ⟨constraint, hconstraint, hstep⟩ := applyColumnConstraint_eq_ok.1 hnext
    refine ⟨hstep.name.trans hsame, ?_⟩
    have hkinds := hpast.step hstep
    rw [List.filterMap_append]
    have hlast : ([element].filterMap fun element =>
        (element.get? "Constraint").bind ConstraintKind.ofNode?) =
          (ConstraintKind.ofNode? constraint).toList := by
      cases hkind : ConstraintKind.ofNode? constraint <;> simp [hconstraint, hkind]
    rw [hlast]
    exact hkinds

/-! ## Tables and their statements -/

/-- What the script says about a column: its own definition, the elements beside it, and the index
statements on its table. -/
structure ColumnStated (elements later : List Json) (definition : Json) (column : Column) :
    Prop where
  primary : column.isPrimary = true ↔
    .primaryKey ∈ ownKinds definition ∨ InPrimaryKey elements column.name
  notNull : column.isNotNull = true ↔
    column.isPrimary = true ∨ .notNull ∈ ownKinds definition
  unique : column.isUnique = true ↔
    .unique ∈ ownKinds definition ∨ UniqueAlone elements column.name ∨
      IndexedAlone later column.name

/-- A table agrees with the elements of its statement and with the index statements on it. -/
structure TableStated (elements later : List Json) (table : Table) : Prop where
  columnNames : table.columnNames = definedNames elements
  column : ∀ name column, table.column? name = some column →
    ∃ definition, definition? name elements = some definition ∧
      ColumnStated elements later definition column
  indexes : table.indexes = constraintIndexes elements ++ statementIndexes later

/-- Keys that stand beside the columns are names of columns before them. -/
structure KeysDeclared (elements : List Json) (table : Table) : Prop where
  primary : ∀ name, InPrimaryKey elements name → name ∈ table.columnNames
  unique : ∀ name, UniqueAlone elements name → name ∈ table.columnNames

/-- **Marking a table keeps it in agreement**, when as much is added to what is stated. -/
theorem TableStated.marks {elements later elements' later' : List Json}
    {primary unique : String → Prop} {added : List Index}
    (h : TableStated elements later table) (hmarks : Marks primary unique added table changed)
    (hnames : definedNames elements' = definedNames elements)
    (hdefinition : ∀ name, definition? name elements' = definition? name elements)
    (hprimary : ∀ name, InPrimaryKey elements' name ↔ InPrimaryKey elements name ∨ primary name)
    (hunique : ∀ name, UniqueAlone elements' name ∨ IndexedAlone later' name ↔
      (UniqueAlone elements name ∨ IndexedAlone later name) ∨ unique name)
    (hindexes : constraintIndexes elements' ++ statementIndexes later' =
      constraintIndexes elements ++ statementIndexes later ++ added) :
    TableStated elements' later' changed where
  columnNames := by rw [hmarks.columnNames, h.columnNames, hnames]
  column := by
    intro name next hnext
    obtain ⟨column, hcolumn, hp, hn, hu⟩ := hmarks.column name next hnext
    obtain ⟨definition, hfound, hstated⟩ := h.column name column hcolumn
    have hsame : next.name = name := Table.name_of_column? hnext
    have hname : column.name = name := Table.name_of_column? hcolumn
    refine ⟨definition, (hdefinition name).trans hfound, ?_, ?_, ?_⟩
    · rw [hp, hstated.primary, hname, hsame, hprimary, or_assoc]
    · rw [hn, hstated.notNull, hp, or_right_comm]
    · rw [hu, hstated.unique, hname, hsame, hunique, or_assoc]
  indexes := by rw [hmarks.indexes, h.indexes, hindexes]

/-! ## One more element -/

section Element

variable {elements : List Json} {element body : Json}

theorem TableStated.constraint (h : TableStated elements [] table)
    (htag : element.tagged? = some ("Constraint", body))
    (hstep : ConstraintStep tables table body changed) :
    TableStated (elements ++ [element]) [] changed := by
  have hbody : body? "Constraint" element = some body := body?_eq_some.2 htag
  have hcolumn : body? "ColumnDef" element = none := body?_of_ne htag (by decide)
  refine h.marks hstep.marks ?_ ?_ ?_ ?_ ?_
  · simp [definedNames_singleton, hcolumn]
  · simp [definition?_singleton, hcolumn]
  · intro name
    rw [inPrimaryKey_append, inPrimaryKey_singleton hbody]
  · intro name
    rw [uniqueAlone_append, uniqueAlone_singleton hbody, or_right_comm]
  · rw [constraintIndexes_append, constraintIndexes_singleton hbody]
    simp [statementIndexes]

theorem KeysDeclared.constraint (h : KeysDeclared elements table)
    (htag : element.tagged? = some ("Constraint", body))
    (hstep : ConstraintStep tables table body changed) :
    KeysDeclared (elements ++ [element]) changed := by
  have hbody : body? "Constraint" element = some body := body?_eq_some.2 htag
  have hmarks := hstep.marks
  constructor
  · intro name hname
    rw [hmarks.columnNames]
    rcases (inPrimaryKey_append _ _ _).1 hname with hname | hname
    · exact h.primary name hname
    · exact hmarks.primary_mem name ((inPrimaryKey_singleton hbody name).1 hname)
  · intro name hname
    rw [hmarks.columnNames]
    rcases (uniqueAlone_append _ _ _).1 hname with hname | hname
    · exact h.unique name hname
    · exact hmarks.unique_mem name ((uniqueAlone_singleton hbody name).1 hname)

/-- An element that is no constraint changes nothing that stands beside the columns. -/
theorem beside_of_none (elements : List Json) (hbody : body? "Constraint" element = none) :
    (∀ name, InPrimaryKey (elements ++ [element]) name ↔ InPrimaryKey elements name) ∧
      (∀ name, UniqueAlone (elements ++ [element]) name ↔ UniqueAlone elements name) ∧
      constraintIndexes (elements ++ [element]) = constraintIndexes elements := by
  have hnone := constraintsOf_of_none hbody
  refine ⟨?_, ?_, ?_⟩
  · simp [InPrimaryKey, hnone]
  · simp [UniqueAlone, hnone]
  · simp [constraintIndexes, hnone]

theorem KeysDeclared.addColumn (h : KeysDeclared elements table)
    (hbody : body? "Constraint" element = none) (column : Column) :
    KeysDeclared (elements ++ [element]) (table.addColumn column) := by
  obtain ⟨hprimary, hunique, -⟩ := beside_of_none elements hbody
  constructor
  · intro name hname
    rw [Table.columnNames_addColumn]
    exact List.mem_append_left _ (h.primary name ((hprimary name).1 hname))
  · intro name hname
    rw [Table.columnNames_addColumn]
    exact List.mem_append_left _ (h.unique name ((hunique name).1 hname))

/-- An element that is no constraint says nothing about the columns before it. -/
theorem ColumnStated.skip {later : List Json} {definition : Json} {column : Column}
    (h : ColumnStated elements later definition column)
    (hbody : body? "Constraint" element = none) :
    ColumnStated (elements ++ [element]) later definition column := by
  obtain ⟨hprimary, hunique, -⟩ := beside_of_none elements hbody
  refine ⟨?_, h.notNull, ?_⟩
  · rw [h.primary, hprimary]
  · rw [h.unique, hunique]

/-- A column with a new name has its own flags only: no key or constraint before it can be about
it, for these name declared columns. -/
theorem OwnFlags.columnStated {definition : Json} {column : Column}
    (h : OwnFlags (ownKinds definition) column) (hkeys : KeysDeclared elements table)
    (hnew : column.name ∉ table.columnNames) : ColumnStated elements [] definition column := by
  have hkey : ¬InPrimaryKey elements column.name := fun hin => hnew (hkeys.primary _ hin)
  have halone : ¬UniqueAlone elements column.name := fun hin => hnew (hkeys.unique _ hin)
  refine ⟨?_, h.notNull, ?_⟩
  · simp [h.primary, hkey]
  · simp [h.unique, halone, IndexedAlone]

/-- A new column agrees with its definition, and if its name is taken it is never looked up. -/
theorem TableStated.addColumn (h : TableStated elements [] table)
    (hkeys : KeysDeclared elements table) (htag : element.tagged? = some ("ColumnDef", body))
    {column : Column} (hcolumn : readColumn tables table body = .ok column) :
    TableStated (elements ++ [element]) [] (table.addColumn column) := by
  have hbody : body? "ColumnDef" element = some body := body?_eq_some.2 htag
  have hnone : body? "Constraint" element = none := body?_of_ne htag (by decide)
  obtain ⟨hname, hflags⟩ := readColumn_flags hcolumn
  refine ⟨?_, ?_, ?_⟩
  · simp [h.columnNames, definedNames_singleton, hbody, hname]
  · intro name next hnext
    rw [Table.column?_addColumn] at hnext
    rw [definition?_append, definition?_singleton, hbody]
    cases hold : table.column? name with
    | some old =>
      rw [hold, Option.some_or, Option.some.injEq] at hnext
      subst hnext
      obtain ⟨definition, hfound, hstated⟩ := h.column name old hold
      exact ⟨definition, by rw [hfound, Option.some_or], hstated.skip hnone⟩
    | none =>
      rw [hold, Option.none_or] at hnext
      have hnew : name ∉ table.columnNames := Table.column?_eq_none_iff.1 hold
      have hundefined : definition? name elements = none := by
        rw [definition?_eq_none_iff, ← h.columnNames]
        exact hnew
      by_cases hsame : column.name = name
      · rw [if_pos hsame, Option.some.injEq] at hnext
        subst hnext
        rw [← hsame] at hnew
        refine ⟨body, ?_, (hflags.columnStated hkeys hnew).skip hnone⟩
        rw [hundefined, Option.none_or, Option.filter_some, if_pos (by simp [hname, hsame])]
      · rw [if_neg hsame] at hnext
        cases hnext
  · obtain ⟨-, -, hindexes⟩ := beside_of_none elements hnone
    rw [hindexes]
    exact h.indexes

/-- What a table under construction keeps: it agrees with its elements so far. -/
structure Built (elements : List Json) (table : Table) : Prop where
  stated : TableStated elements [] table
  declared : KeysDeclared elements table

/-- A new table has no elements yet. -/
theorem Built.new (name : String) : Built [] { name } := by
  refine ⟨⟨rfl, ?_, rfl⟩, ?_, ?_⟩
  · intro name column hcolumn
    cases hcolumn
  · rintro name ⟨constraint, hmem, -⟩
    cases hmem
  · rintro name ⟨constraint, hmem, -⟩
    cases hmem

theorem Built.step (h : Built elements table) (hstep : ElementStep tables table element changed) :
    Built (elements ++ [element]) changed := by
  cases hstep with
  | column htag hcolumn =>
    exact ⟨h.stated.addColumn h.declared htag hcolumn,
      h.declared.addColumn (body?_of_ne htag (by decide)) _⟩
  | constraint htag hstep =>
    exact ⟨h.stated.constraint htag hstep, h.declared.constraint htag hstep⟩
  | ignored hcolumn hconstraint =>
    have hbody : body? "ColumnDef" element = none := body?_eq_none hcolumn
    obtain ⟨hprimary, hunique, hindexes⟩ :=
      beside_of_none elements (body?_eq_none hconstraint)
    constructor
    · refine h.stated.marks (Marks.refl _) ?_ ?_ ?_ ?_ ?_
      · simp [definedNames_singleton, hbody]
      · simp [definition?_singleton, hbody]
      · simp [hprimary]
      · simp [hunique]
      · simp [hindexes]
    · exact ⟨fun name hname => h.declared.primary name ((hprimary name).1 hname),
        fun name hname => h.declared.unique name ((hunique name).1 hname)⟩

end Element

theorem ElementStep.name {element : Json} (h : ElementStep tables table element changed) :
    changed.name = table.name := by
  cases h with
  | column htag hcolumn => rfl
  | constraint htag hstep => exact hstep.marks.name
  | ignored hcolumn hconstraint => rfl

/-- Elements that are applied to a new table build it. -/
theorem run_built {elements : List Json} {name : String}
    (h : elements.foldlM (applyElement tables) { name } = .ok table) :
    table.name = name ∧ Built elements table := by
  refine foldlM_history (fun past table => table.name = name ∧ Built past table)
    ⟨rfl, .new name⟩ ?_ h
  rintro past table element next ⟨hsame, hpast⟩ hnext
  have hstep := applyElement_eq_ok.1 hnext
  exact ⟨hstep.name.trans hsame, hpast.step hstep⟩

/-- **A new table agrees with its statement**, and has the name of its relation. -/
theorem createTable_stated {statement : Json} (h : createTable tables statement = .ok table) :
    relation? statement = some table.name ∧
      TableStated (itemsAt statement "tableElts") [] table := by
  obtain ⟨name, hname, hfold⟩ := createTable_eq_ok.1 h
  obtain ⟨hsame, hbuilt⟩ := run_built hfold
  rw [hname, hsame]
  exact ⟨rfl, hbuilt.stated⟩

/-! ## Tables of one name -/

/-- A table agrees with its statement when index statements are left aside. -/
def AsCreated (statement : Json) (table : Table) : Prop :=
  TableStated (itemsAt statement "tableElts") [] table

/--
The tables of one name agree with the statements that create them, in order. The index statements
on that name all count for the first table; while there is none, there are no such statements.
-/
inductive Namesakes (later : List Json) : List Json → List Table → Prop
  | none (hlater : later = []) : Namesakes later [] []
  | some {statement : Json} {statements : List Json} {table : Table} {tables : List Table}
      (hfirst : TableStated (itemsAt statement "tableElts") later table)
      (hrest : List.Forall₂ AsCreated statements tables) :
      Namesakes later (statement :: statements) (table :: tables)

/-- The tables of a name, in order. -/
def named (name : String) (tables : List Table) : List Table :=
  tables.filter (·.name = name)

/-- The first table of a name comes first among the tables of the name. -/
theorem named_split {name : String} {front back : List Table}
    (hfront : ∀ earlier ∈ front, earlier.name ≠ name) (hname : table.name = name) :
    named name (front ++ table :: back) = table :: named name back := by
  have hnone : named name front = [] := by
    simpa [named] using hfront
  rw [named, List.filter_append, ← named, hnone]
  simp [named, hname]

section Namesakes

variable {later statements : List Json} {statement body : Json}

theorem Namesakes.create (h : Namesakes later statements tables)
    (htable : AsCreated statement table) :
    Namesakes later (statements ++ [statement]) (tables ++ [table]) := by
  cases h with
  | none hlater =>
    subst hlater
    exact .some htable .nil
  | some hfirst hrest => exact .some hfirst (List.rel_append hrest (.cons htable .nil))

theorem Namesakes.index (h : Namesakes later statements (table :: tables))
    (hnext : ∀ elements, TableStated elements later table →
      TableStated elements (later ++ [body]) changed) :
    Namesakes (later ++ [body]) statements (changed :: tables) := by
  cases h with
  | some hfirst hrest => exact .some (hnext _ hfirst) hrest

/-- An index statement on a table is one more statement that its flags and indexes follow. -/
theorem TableStated.index {elements : List Json} (h : TableStated elements later table)
    (hcover : coverColumns table (indexColumns body) (isUniqueIndex body) .createIndex
      = .ok changed) :
    TableStated elements (later ++ [body]) changed := by
  refine h.marks (coverColumns_marks hcover) rfl (fun _ => rfl) ?_ ?_ ?_
  · simp
  · intro name
    rw [indexedAlone_append, ← or_assoc]
    simp [IndexedAlone]
  · rw [statementIndexes_append, ← List.append_assoc]
    cases hentry : severalIndex? (indexColumns body) (isUniqueIndex body) <;>
      simp [statementIndexes, hentry]

end Namesakes

/-- A run agrees with the script, name by name. -/
def Agrees (script : List Json) (tables : List Table) : Prop :=
  ∀ name, Namesakes (indexing name script) (creating name script) (named name tables)

theorem Agrees.step {script : List Json} {statement : Json} {next : List Table}
    (h : Agrees script tables) (hstep : StatementStep tables statement next) :
    Agrees (script ++ [statement]) next := by
  intro name
  have hname := h name
  rw [indexing_append, creating_append, indexing_singleton, creating_singleton]
  cases hstep with
  | @createTable body table htag htable =>
    rw [body?_eq_some.2 htag, body?_of_ne htag (by decide), Option.filter_none,
      Option.toList_none, List.append_nil]
    obtain ⟨hrelation, hstated⟩ := createTable_stated htable
    rw [named, List.filter_append, ← named]
    by_cases hsame : table.name = name
    · simpa [Option.filter_some, hrelation, hsame] using hname.create hstated
    · simpa [Option.filter_some, hrelation, hsame] using hname
  | @createIndex body relation before after table changed htag hrelation hsplit hbefore htable
      hnamed hcover =>
    rw [body?_eq_some.2 htag, body?_of_ne htag (by decide), Option.filter_none,
      Option.toList_none, List.append_nil]
    have hchanged : changed.name = relation := (coverColumns_marks hcover).name.trans htable
    rw [hsplit] at hname
    by_cases hsame : relation = name
    · subst hsame
      rw [named_split hbefore htable] at hname
      rw [named_split hbefore hchanged, Option.filter_some, if_pos (by simp [hrelation]),
        Option.toList_some]
      exact hname.index fun elements hstated => hstated.index hcover
    · simpa [named, Option.filter_some, hrelation, htable, hchanged, hsame] using hname
  | skipped htable hindex =>
    rw [body?_eq_none htable, body?_eq_none hindex]
    simpa using hname

/-- **A run agrees with the script**, after every statement. -/
theorem run_agrees {script : List Json} (h : script.foldlM applyStatement [] = .ok tables) :
    Agrees script tables := by
  refine foldlM_history Agrees ?_ ?_ h
  · intro name
    exact .none rfl
  · intro past tables statement next hpast hnext
    exact hpast.step (applyStatement_eq_ok.1 hnext)

/-- The tables of a run have the names that the table statements give them. -/
theorem Agrees.forall_name_ne_iff {script : List Json} (h : Agrees script tables)
    (name : String) :
    (∀ table ∈ tables, table.name ≠ name) ↔ name ∉ createdNames script := by
  have hname := h name
  have hnone : (∀ table ∈ tables, table.name ≠ name) ↔ named name tables = [] := by
    simp [named]
  rw [hnone, ← creating_eq_nil_iff]
  generalize creating name script = creates at hname ⊢
  generalize named name tables = namesakes at hname ⊢
  cases hname with
  | none hlater => simp
  | some hfirst hrest => simp

/-- The columns of the first table of a name are those that the first table statement of the name
defines. -/
theorem Agrees.exists_first_iff {script : List Json} (h : Agrees script tables)
    (name column : String) :
    (∃ table, tables.find? (·.name = name) = some table ∧ column ∉ table.columnNames) ↔
      ∃ create, (creating name script).head? = some create ∧
        column ∉ definedNames (itemsAt create "tableElts") := by
  have hname := h name
  rw [← List.head?_filter, ← named]
  generalize creating name script = creates at hname ⊢
  generalize named name tables = namesakes at hname ⊢
  cases hname with
  | none hlater => simp
  | some hfirst hrest => simp [hfirst.columnNames]

/-! ## Accepted scripts -/

/-- The first table of a name agrees with the first statement of that name and with all index
statements on it. -/
theorem Agrees.first {script : List Json} {name : String} (h : Agrees script tables)
    (hfirst : tables.find? (·.name = name) = some table) :
    ∃ statement, (creating name script).head? = some statement ∧
      TableStated (itemsAt statement "tableElts") (indexing name script) table := by
  have hname := h name
  rw [← List.head?_filter, ← named] at hfirst
  generalize creating name script = creates at hname ⊢
  generalize named name tables = namesakes at hname hfirst
  cases hname with
  | none hlater => cases hfirst
  | some hstated hrest =>
    cases hfirst
    exact ⟨_, rfl, hstated⟩

/-- The first finished table of a name was the first of that name before. -/
theorem find?_finalize {left : List Table} {name : String}
    (h : (left.map (·.finalize)).find? (·.name = name) = some table) :
    ∃ unfinished, left.find? (·.name = name) = some unfinished ∧
      table = unfinished.finalize := by
  rw [List.find?_map, Option.map_eq_some_iff] at h
  obtain ⟨unfinished, hfound, rfl⟩ := h
  exact ⟨unfinished, hfound, rfl⟩

/--
**The keys and indexes of a table are those that the script states.** For the first table of each
name: its first column of each name is primary, not null or unique exactly as far as the
definition of that column, the constraints beside the columns and the index statements on the
table say so, and its indexes are those that constraints and index statements over several columns
ask for, in the order of the script but for the unique ones in front.
-/
theorem tablesOf_accounting {tree : Json} (h : tablesOf tree = .ok tables) :
    ∃ script, statements tree = .ok script ∧
      ∀ table, tables.find? (·.name = table.name) = some table →
        ∃ statement, (creating table.name script).head? = some statement ∧
          (∀ column, table.column? column.name = some column →
            ∃ definition,
              definition? column.name (itemsAt statement "tableElts") = some definition ∧
              ColumnStated (itemsAt statement "tableElts") (indexing table.name script)
                definition column) ∧
          table.indexes = uniqueFirst
            (constraintIndexes (itemsAt statement "tableElts") ++
              statementIndexes (indexing table.name script)) := by
  obtain ⟨script, left, hscript, hrun, rfl⟩ := tablesOf_eq_ok.1 h
  refine ⟨script, hscript, ?_⟩
  intro table hfirst
  obtain ⟨unfinished, hfound, hfinished⟩ := find?_finalize hfirst
  obtain ⟨statement, hstatement, hstated⟩ := (run_agrees hrun).first hfound
  refine ⟨statement, hstatement, ?_, ?_⟩
  · intro column hcolumn
    rw [hfinished, Table.column?_finalize] at hcolumn
    exact hstated.column column.name column hcolumn
  · rw [← hstated.indexes, hfinished]
    rfl

/-- In the blog, the posts and their slugs: primary by a key beside the columns, not unique though
two unique indexes are over them, and three indexes in all. -/
theorem blogTree_accounting :
    ∃ script statement definition, statements blogTree = .ok script ∧
      (creating "posts" script).head? = some statement ∧
      definition? "slug" (itemsAt statement "tableElts") = some definition ∧
      ColumnStated (itemsAt statement "tableElts") (indexing "posts" script) definition
        { name := "slug", type := "text", isPrimary := true, isNotNull := true } ∧
      [ { columns := ["slug", "title"], isUnique := true }
      , { columns := ["title", "slug"], isUnique := true }
      , { columns := ["title", "author"], isUnique := false } ] =
        uniqueFirst (constraintIndexes (itemsAt statement "tableElts") ++
          statementIndexes (indexing "posts" script)) := by
  obtain ⟨script, hscript, hall⟩ := tablesOf_accounting tablesOf_blogTree
  obtain ⟨statement, hstatement, hcolumns, hindexes⟩ := hall blogTables[1] (by decide)
  obtain ⟨definition, hdefinition, hstated⟩ := hcolumns
    { name := "slug", type := "text", isPrimary := true, isNotNull := true } (by decide)
  exact ⟨script, statement, definition, hscript, hstatement, hdefinition, hstated, hindexes⟩

end EntSchema.ParseTree
