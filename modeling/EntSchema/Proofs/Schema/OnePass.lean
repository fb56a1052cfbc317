import EntSchema.Proofs.Schema.Files
import EntSchema.Proofs.Schema.Rules

/-!
# One pass over the columns

A table can be read in one pass: column by column with one set of imports, into which each import is
put where the rules come across it, until a column fails (`tablePass`). Such a pass would be free to
let a column depend on the columns before it, by what they have left in the set. It does not. The
outcome of a column is the same in any context, and it adds the same imports
(`columnPass_runFrom`), so one pass makes the file that the columns make on their own
(`tablePass_eq_fileOf`).

So a file is put together from its columns, each of them taken on its own, and their order only
shows in the order of the declarations (`fileOf_independent`).
-/

namespace EntSchema.Schema

open Relational Config

/-- A part of a pass. It adds imports to a set, and it may fail; what it has added by then is left
behind. -/
abbrev Pass (α : Type) := ExceptT FieldError (StateM (List String)) α

/-- The result of a part that starts with some imports, and the imports that it leaves behind. -/
def Pass.runFrom {α : Type} (pass : Pass α) (imports : List String) :
    Except FieldError α × List String :=
  pass.run.run imports

/-- Put some imports into the set. -/
def addImports (imports : List String) : Pass Unit :=
  modify fun set => Ordered.insertAll set imports

/-- The rules for one column, with its imports put in where they come up. -/
def columnPass (config : Config) (table : String) (column : Column) : Pass Outcome :=
  if isImplicitKey column then return .skipped
  else match firstOverride? config.overrides column with
    | some rule => do
      addImports rule.imports
      return .declared [.builder (Text.fill rule.template column.name)]
    | none =>
      match config.builders.lookup column.type with
      | none => throw (.missingTypeMapping table column.name column.type)
      | some builder => do
        let refinement := config.refinements.lookup builder
        addImports (builderImports config builder)
        if column.default.isSome && column.isUnique then
          throw (.uniqueWithDefault table column.name)
        addImports (defaultImports column)
        return .declared (columnLinks config.switches column builder refinement)

/-- The declaration of one more column behind others. -/
def fieldsStep (config : Config) (table : String) (fields : List String) (column : Column) :
    Pass (List String) := do
  let outcome ← columnPass config table column
  return fields ++ outcome.text?.toList

/-- The declarations of some columns, up to the first column that fails. -/
def fieldsPass (config : Config) (table : String) (columns : List Column) : Pass (List String) :=
  columns.foldlM (fieldsStep config table) []

/-- The schema file of a table in one pass over its columns. -/
def tablePass (config : Config) (table : Table) : Except FieldError SchemaFile :=
  match (fieldsPass config table.name table.columns).runFrom [] with
  | (.error e, _) => .error e
  | (.ok fields, imports) => .ok {
      stem := Naming.singularize table.name
      imports
      entity := Naming.upperCamel (Naming.singularize table.name)
      annotations := annotationsOf table
      fields
      indexes := table.indexes.map indexText }

section Column

variable {config : Config} {table : String} {column : Column} {imports : List String}

theorem Pass.runFrom_bind_of_ok {α β : Type} {pass : Pass α} {next : α → Pass β} {value : α}
    {left : List String} (h : pass.runFrom imports = (.ok value, left)) :
    (pass >>= next).runFrom imports = (next value).runFrom left := by
  rw [runFrom] at h
  rw [runFrom, ExceptT.run_bind, StateT.run_bind, h]
  rfl

theorem Pass.runFrom_bind_of_error {α β : Type} {pass : Pass α} {next : α → Pass β}
    {e : FieldError} {left : List String} (h : pass.runFrom imports = (.error e, left)) :
    (pass >>= next).runFrom imports = (.error e, left) := by
  rw [runFrom] at h
  rw [runFrom, ExceptT.run_bind, StateT.run_bind, h]
  rfl

/-- **A column has its outcome in any context**, and adds its own imports to it. -/
theorem columnPass_runFrom (config : Config) (table : String) (column : Column)
    (imports : List String) :
    (columnPass config table column).runFrom imports =
      ((fieldOf config table column).outcome,
        Ordered.insertAll imports (fieldOf config table column).imports) := by
  have hruled := ruled_fieldOf config table column
  generalize fieldOf config table column = result at hruled
  rw [columnPass]
  cases hruled with
  | skipped hkey =>
    rw [if_pos hkey]
    rfl
  | overridden hkey hrule =>
    rw [if_neg (by rw [hkey]; decide), hrule]
    rfl
  | unmapped htype hbuilder =>
    rw [if_neg (by rw [htype.notKey]; decide), htype.noOverride, hbuilder]
    rfl
  | conflicting htype hbuilder hdefault hunique =>
    rw [if_neg (by rw [htype.notKey]; decide), htype.noOverride, hbuilder, hdefault, hunique]
    rfl
  | mapped htype hbuilder hunique =>
    have hagree : (column.default.isSome && column.isUnique) = false := by
      cases hcolumn : column.isUnique with
      | true => rw [hunique hcolumn]; rfl
      | false => exact Bool.and_false _
    rw [if_neg (by rw [htype.notKey]; decide), htype.noOverride, hbuilder, hagree,
      Ordered.insertAll_append]
    rfl

theorem fieldsStep_runFrom_of_ok {fields : List String} {outcome : Outcome}
    (h : (fieldOf config table column).outcome = .ok outcome) :
    (fieldsStep config table fields column).runFrom imports =
      (.ok (fields ++ (fieldOf config table column).text?.toList),
        Ordered.insertAll imports (fieldOf config table column).imports) := by
  have hcolumn := columnPass_runFrom config table column imports
  rw [h] at hcolumn
  rw [fieldsStep, Pass.runFrom_bind_of_ok hcolumn, FieldResult.text?, h]
  rfl

theorem fieldsStep_runFrom_of_error {fields : List String} {e : FieldError}
    (h : (fieldOf config table column).outcome = .error e) :
    (fieldsStep config table fields column).runFrom imports =
      (.error e, Ordered.insertAll imports (fieldOf config table column).imports) := by
  have hcolumn := columnPass_runFrom config table column imports
  rw [h] at hcolumn
  exact Pass.runFrom_bind_of_error hcolumn

end Column

section Table

variable {config : Config} {table : String} {columns : List Column}

/-- **A pass over columns that all have an outcome** collects their declarations and imports. -/
theorem foldlM_fieldsStep_runFrom
    (h : ∀ column ∈ columns, ∃ outcome, (fieldOf config table column).outcome = .ok outcome)
    (fields imports : List String) :
    (columns.foldlM (fieldsStep config table) fields).runFrom imports =
      (.ok (fields ++ columns.filterMap fun column => (fieldOf config table column).text?),
        columns.foldl (fun imports column =>
          Ordered.insertAll imports (fieldOf config table column).imports) imports) := by
  induction columns generalizing fields imports with
  | nil =>
    rw [List.filterMap_nil, List.append_nil]
    rfl
  | cons column rest ih =>
    obtain ⟨⟨outcome, houtcome⟩, hrest⟩ := List.forall_mem_cons.1 h
    have hfields : (column :: rest).filterMap (fun column => (fieldOf config table column).text?) =
        (fieldOf config table column).text?.toList ++
          rest.filterMap fun column => (fieldOf config table column).text? := by
      rw [List.filterMap_cons]
      cases (fieldOf config table column).text? <;> rfl
    rw [List.foldlM_cons, Pass.runFrom_bind_of_ok (fieldsStep_runFrom_of_ok houtcome), ih hrest,
      hfields, List.append_assoc]
    rfl

/-- **A pass fails as the first column does that fails.** -/
theorem exists_fieldsPass_runFrom {before : List Column} {column : Column} {e : FieldError}
    (after : List Column)
    (hbefore : ∀ earlier ∈ before, ∃ outcome, (fieldOf config table earlier).outcome = .ok outcome)
    (hcolumn : (fieldOf config table column).outcome = .error e) (imports : List String) :
    ∃ left, (fieldsPass config table (before ++ column :: after)).runFrom imports =
      (.error e, left) := by
  rw [fieldsPass, List.foldlM_append,
    Pass.runFrom_bind_of_ok (foldlM_fieldsStep_runFrom hbefore [] imports), List.foldlM_cons]
  exact ⟨_, Pass.runFrom_bind_of_error (fieldsStep_runFrom_of_error hcolumn)⟩

end Table

/-- **One pass makes the file that the columns make on their own.** -/
theorem tablePass_eq_fileOf (config : Config) (table : Table) :
    tablePass config table = fileOf config table := by
  cases hfile : fileOf config table with
  | ok file =>
    obtain ⟨hall, rfl⟩ := fileOf_eq_ok.1 hfile
    rw [tablePass, fieldsPass, foldlM_fieldsStep_runFrom hall, List.nil_append, contentOf,
      importsOf, List.foldl_map]
  | error e =>
    obtain ⟨before, column, after, hsplit, hbefore, hcolumn⟩ := fileOf_eq_error.1 hfile
    obtain ⟨left, hrun⟩ := exists_fieldsPass_runFrom after hbefore hcolumn []
    rw [tablePass, hsplit, hrun]

/-! ## Columns on their own -/

/-- The outcome of a column on its own, and the imports that it leaves behind. -/
def alone (config : Config) (table : String) (column : Column) :
    Except FieldError Outcome × List String :=
  (columnPass config table column).runFrom []

/-- A file consists of what the columns of a table are on their own, in their order. -/
structure ComposedOf (config : Config) (table : Table) (file : SchemaFile) : Prop where
  fields : file.fields = table.columns.filterMap fun column =>
    (alone config table.name column).1.toOption.bind Outcome.text?
  increasing : Ordered.Increasing file.imports
  imports : ∀ path, path ∈ file.imports ↔
    ∃ column ∈ table.columns, path ∈ (alone config table.name column).2
  indexes : file.indexes = table.indexes.map indexText

section Alone

variable {config : Config} {table : Table} {file : SchemaFile} {column : Column}

theorem alone_fst (config : Config) (table : String) (column : Column) :
    (alone config table column).1 = (fieldOf config table column).outcome := by
  rw [alone, columnPass_runFrom]

theorem mem_alone_snd {path : String} :
    path ∈ (alone config table.name column).2 ↔
      path ∈ (fieldOf config table.name column).imports := by
  rw [alone, columnPass_runFrom, Ordered.mem_insertAll, or_iff_right List.not_mem_nil]

/-- A column adds to a set the imports that it leaves behind on its own. -/
theorem columnPass_runFrom_alone {context : List String} (h : Ordered.Increasing context) :
    (columnPass config table.name column).runFrom context =
      ((alone config table.name column).1,
        Ordered.insertAll context (alone config table.name column).2) := by
  have himports : Ordered.insertAll context (fieldOf config table.name column).imports =
      Ordered.insertAll context (alone config table.name column).2 := by
    -- Left-over imports are sorted anew, so the insertions differ and only the members agree.
    refine List.Pairwise.eq_of_mem_iff (h.insertAll _) (h.insertAll _) ?_
    intro path
    rw [Ordered.mem_insertAll, Ordered.mem_insertAll, mem_alone_snd]
  rw [columnPass_runFrom, himports, alone_fst]

theorem composedOf_contentOf (config : Config) (table : Table) :
    ComposedOf config table (contentOf config table) where
  fields := by
    simp only [alone_fst]
    rfl
  increasing := increasing_importsOf _
  imports := by
    intro path
    simp only [mem_contentOf_imports, mem_alone_snd]
  indexes := rfl

/-- Columns in another order make the same file but for the order of its declarations. -/
theorem exists_fileOf_of_perm {columns : List Column} (hperm : columns.Perm table.columns)
    (h : fileOf config table = .ok file) :
    ∃ moved, fileOf config { table with columns } = .ok moved ∧
      moved.fields.Perm file.fields ∧ moved.imports = file.imports := by
  obtain ⟨hall, rfl⟩ := fileOf_eq_ok.1 h
  have hmoved : AllSettled config { table with columns } :=
    fun column hcolumn => hall column (hperm.mem_iff.1 hcolumn)
  refine ⟨_, fileOf_eq_ok.2 ⟨hmoved, rfl⟩, hperm.filterMap _, ?_⟩
  refine List.Pairwise.eq_of_mem_iff (increasing_importsOf _) (increasing_importsOf _) ?_
  intro path
  rw [mem_contentOf_imports, mem_contentOf_imports]
  simp only [hperm.mem_iff]

/-- **A table is put together from its columns, each of them on its own.** One pass over the columns
makes the file; a column has its outcome in any context; the first column that fails on its own
decides an error; else the file consists of what the columns are on their own, and another order of
the columns is another order of the declarations. -/
theorem fileOf_independent (config : Config) (table : Table) :
    tablePass config table = fileOf config table ∧
      (∀ column context, Ordered.Increasing context →
        (columnPass config table.name column).runFrom context =
          ((alone config table.name column).1,
            Ordered.insertAll context (alone config table.name column).2)) ∧
      (∀ e, fileOf config table = .error e ↔
        ∃ before column after, table.columns = before ++ column :: after ∧
          (∀ earlier ∈ before, ∃ outcome, (alone config table.name earlier).1 = .ok outcome) ∧
          (alone config table.name column).1 = .error e) ∧
      ((∀ column ∈ table.columns, ∃ outcome, (alone config table.name column).1 = .ok outcome) →
        ∃ file, fileOf config table = .ok file ∧ ComposedOf config table file) ∧
      ∀ columns file, columns.Perm table.columns → fileOf config table = .ok file →
        ∃ moved, fileOf config { table with columns } = .ok moved ∧
          moved.fields.Perm file.fields ∧ moved.imports = file.imports := by
  refine ⟨tablePass_eq_fileOf config table, ?_, ?_, ?_, ?_⟩
  · exact fun column context h => columnPass_runFrom_alone h
  · intro e
    simp only [alone_fst]
    exact fileOf_eq_error
  · intro hall
    simp only [alone_fst] at hall
    exact ⟨_, fileOf_eq_ok.2 ⟨hall, rfl⟩, composedOf_contentOf config table⟩
  · exact fun columns file hperm h => exists_fileOf_of_perm hperm h

end Alone

/-- The table of events: in one pass, a column of it behind an import from elsewhere, backwards, and
with no settings at all, where its second column fails. -/
theorem eventTable_independent :
    tablePass eventSettings eventTable = .ok eventFile ∧
      (columnPass eventSettings eventTable.name filledColumn).runFrom ["net/url"] =
        ((alone eventSettings eventTable.name filledColumn).1, [entsqlImport, "net/url"]) ∧
      ComposedOf eventSettings eventTable eventFile ∧
      (∃ moved, fileOf eventSettings { eventTable with columns := eventTable.columns.reverse } =
          .ok moved ∧
        moved.fields.Perm eventFile.fields ∧ moved.imports = eventFile.imports) ∧
      fileOf {} eventTable = .error (.missingTypeMapping "events" "token" "uuid") := by
  obtain ⟨hpass, hcontext, -, hcomposed, hmoved⟩ := fileOf_independent eventSettings eventTable
  obtain ⟨-, -, hfails, -, -⟩ := fileOf_independent {} eventTable
  have hall : ∀ column ∈ eventTable.columns, ∃ outcome,
      (alone eventSettings eventTable.name column).1 = .ok outcome := by
    simp only [alone_fst]
    exact (fileOf_eq_ok.1 fileOf_eventTable).1
  have himports : Ordered.insertAll ["net/url"]
      (alone eventSettings eventTable.name filledColumn).2 = [entsqlImport, "net/url"] := by
    decide +kernel
  refine ⟨hpass.trans fileOf_eventTable, ?_, ?_, ?_, ?_⟩
  · rw [hcontext filledColumn ["net/url"] (List.pairwise_singleton _ _), himports]
  · obtain ⟨file, hfile, hcomposed⟩ := hcomposed hall
    rw [fileOf_eventTable, Except.ok.injEq] at hfile
    rw [hfile]
    exact hcomposed
  · exact hmoved _ _ eventTable.columns.reverse_perm fileOf_eventTable
  · refine (hfails _).2 ⟨eventTable.columns.take 1, _, eventTable.columns.drop 2, rfl, ?_, rfl⟩
    intro earlier hearlier
    rw [List.mem_singleton.1 hearlier]
    exact ⟨.skipped, rfl⟩

end EntSchema.Schema
