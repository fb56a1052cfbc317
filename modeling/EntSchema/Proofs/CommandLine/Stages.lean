import EntSchema.Proofs.CommandLine.Session
import EntSchema.Proofs.Output.Stems
import EntSchema.Proofs.Schema.Files

/-!
# Stages of a run

A run reads the settings and the parse tree, makes the schema files of the tables, writes them and
has them formatted. What it has read by then is a relation to the files that it starts from
(`Prepared`), and so is why it stops before it writes, with what it says (`Stops`). `run_of_stops`
says what a run is that stops, `run_of_prepared` what is left of one that does not stop at reading.
-/

namespace EntSchema.CommandLine

open Fold Storage Relational

/-! ## What a run is given -/

section Given

variable {σ : Type} [FileSystem σ]

/-- The file with the parse tree is that of the arguments, or else that of the settings. -/
inductive InputPath (arguments : Arguments) (config : Config) (path : String) : Prop
  | given (h : arguments.input = some path)
  | set (hgiven : arguments.input = none) (h : config.parseTree = some path)

/-- The directory of the schema files is that of the arguments, or else that of the settings, or
else the usual one. -/
inductive OutDir (arguments : Arguments) (config : Config) : String → Prop
  | given {directory : String} (h : arguments.outDir = some directory) :
    OutDir arguments config directory
  | set {directory : String} (hgiven : arguments.outDir = none)
      (h : config.outDir = some directory) : OutDir arguments config directory
  | usual (hgiven : arguments.outDir = none) (hset : config.outDir = none) :
    OutDir arguments config "ent/schema"

/-- The settings can be loaded. -/
def HasSettings (arguments : Arguments) (files : σ) (config : Config) : Prop :=
  ∃ text, FileSystem.read files arguments.config = .ok text ∧ Config.ofYaml? text = some config

/-- The settings can be loaded and the text of the parse tree read. -/
structure HasTree (arguments : Arguments) (files : σ) (config : Config) (tree : String) : Prop where
  settings : HasSettings arguments files config
  read : ∃ path, InputPath arguments config path ∧ FileSystem.read files path = .ok tree

/-- All is read: the settings, and the tables of the parse tree. -/
def Prepared (arguments : Arguments) (files : σ) (config : Config) (tables : List Table) : Prop :=
  ∃ tree, HasTree arguments files config tree ∧ ParseTree.tablesOfText tree = .ok tables

/-- The schema files of the tables that have one, in order. -/
def generated (config : Config) (tables : List Table) : List SchemaFile :=
  tables.filterMap fun table => (Schema.fileOf config table).toOption

/-- The reports on the tables without a schema file, in order. -/
def failures (config : Config) (tables : List Table) : List String :=
  tables.filterMap fun table => match Schema.fileOf config table with
    | .ok _ => none
    | .error e => some (tableReport table e)

/-- What is said before the files are written. -/
def begun (arguments : Arguments) (config : Config) (tables : List Table) : String :=
  (if arguments.verbose then line ("Parsed " ++ toString tables.length ++ " tables") else "") ++
    String.join (failures config tables)

/-- What a run comes to that fails while it writes its files. -/
def unwritten (arguments : Arguments) (config : Config) (tables : List Table) (e : OutputError) :
    Report where
  exitCode := 2
  stderr := begun arguments config tables ++ line ("Error writing output: " ++ e.message)

/-- Why a run stops before it writes, and what it says. -/
inductive Stops (arguments : Arguments) (files : σ) : String → Prop
  | unreadableSettings {cause : StorageError}
      (h : FileSystem.read files arguments.config = .error cause) :
    Stops arguments files (ConfigError.unreadable arguments.config cause).report
  | invalidSettings {text : String} (hread : FileSystem.read files arguments.config = .ok text)
      (h : Config.ofYaml? text = none) :
    Stops arguments files (ConfigError.invalid arguments.config).report
  | noInput {config : Config} (hsettings : HasSettings arguments files config)
      (h : ¬∃ path, InputPath arguments config path) :
    Stops arguments files
      (line "No parse tree provided: pass a path or set `parse-tree` in the config")
  | unreadableTree {config : Config} {path : String} {cause : StorageError}
      (hsettings : HasSettings arguments files config) (hpath : InputPath arguments config path)
      (h : FileSystem.read files path = .error cause) :
    Stops arguments files (line ("Error reading " ++ path ++ ": " ++ cause.message))
  | refusedTree {config : Config} {tree : String} {e : ParseTree.ParseError}
      (htree : HasTree arguments files config tree) (h : ParseTree.tablesOfText tree = .error e) :
    Stops arguments files (parseReport e)
  | refusedNames {config : Config} {tables : List Table} {e : OutputError}
      (hprepared : Prepared arguments files config tables)
      (h : Output.checkStems (generated config tables) = .error e) :
    Stops arguments files (unwritten arguments config tables e).stderr

end Given

/-! ## Schema files and reports of tables -/

section Tables

variable {config : Config} {tables : List Table} {table : Table} {file : SchemaFile}

theorem mem_generated_iff :
    file ∈ generated config tables ↔ ∃ table ∈ tables, Schema.fileOf config table = .ok file := by
  rw [generated, List.mem_filterMap]
  refine exists_congr fun table => and_congr_right fun _ => ?_
  cases Schema.fileOf config table with
  | ok found => simp [Except.toOption]
  | error e => simp [Except.toOption]

theorem generated_ne_nil_iff :
    generated config tables ≠ [] ↔
      ∃ table ∈ tables, ∃ file, Schema.fileOf config table = .ok file := by
  constructor
  · intro h
    obtain ⟨file, hmem⟩ := List.exists_mem_of_ne_nil _ h
    obtain ⟨table, htable, hfile⟩ := mem_generated_iff.1 hmem
    exact ⟨table, htable, file, hfile⟩
  · rintro ⟨table, htable, file, hfile⟩
    exact List.ne_nil_of_mem (mem_generated_iff.2 ⟨table, htable, hfile⟩)

theorem failures_ne_nil_iff :
    failures config tables ≠ [] ↔
      ∃ table ∈ tables, ∃ e, Schema.fileOf config table = .error e := by
  constructor
  · intro h
    obtain ⟨report, hmem⟩ := List.exists_mem_of_ne_nil _ h
    obtain ⟨table, htable, hreport⟩ := List.mem_filterMap.1 hmem
    refine ⟨table, htable, ?_⟩
    cases hfile : Schema.fileOf config table with
    | ok file =>
      rw [hfile] at hreport
      cases hreport
    | error e => exact ⟨e, rfl⟩
  · rintro ⟨table, htable, e, hfile⟩
    have hmem : tableReport table e ∈ failures config tables := by
      refine List.mem_filterMap.2 ⟨table, htable, ?_⟩
      rw [hfile]
    exact List.ne_nil_of_mem hmem

theorem sortResults_eq (config : Config) (tables : List Table) :
    sortResults config tables = (generated config tables, failures config tables) := by
  have hfiles : ∀ table, (match Schema.fileOf config table with
      | .ok file => some file
      | .error _ => none) = (Schema.fileOf config table).toOption := by
    intro table
    cases Schema.fileOf config table with
    | ok file => rfl
    | error e => rfl
  unfold sortResults generated failures
  simp only [List.filterMap_map, ← hfiles]
  rfl

end Tables

/-! ## Stages of a run -/

section Stages

variable {σ : Type} [FileSystem σ] {arguments : Arguments} {config : Config} {tables : List Table}
  {session : Session σ} {path tree said : String}

theorem run_writeFiles {directory : String} {schemas : List SchemaFile}
    {result : Except OutputError (List String)} {left : σ}
    (h : (Output.writeFiles directory schemas :
      StateM σ (Except OutputError (List String))).run session.files = (result, left)) :
    (Output.writeFiles directory schemas :
      StateM (Session σ) (Except OutputError (List String))).run session =
        (result, { session with files := left }) := by
  rw [Session.writeFiles_eq_onFiles]
  exact Session.run_onFiles h

theorem inputPath_iff :
    InputPath arguments config path ↔ arguments.input.or config.parseTree = some path := by
  rw [Option.or_eq_some_iff]
  constructor
  · intro h
    cases h with
    | given h => exact .inl h
    | set hgiven h => exact .inr ⟨hgiven, h⟩
  · rintro (h | ⟨hgiven, h⟩)
    · exact .given h
    · exact .set hgiven h

theorem eq_of_outDir {directory : String} (h : OutDir arguments config directory) :
    (arguments.outDir.or config.outDir).getD usualOutDir = directory := by
  cases h with
  | given h => rw [h]; rfl
  | set hgiven h => rw [hgiven, h]; rfl
  | usual hgiven hset => rw [hgiven, hset]; rfl

theorem exists_outDir (arguments : Arguments) (config : Config) :
    ∃ directory, OutDir arguments config directory := by
  cases hgiven : arguments.outDir with
  | some directory => exact ⟨directory, .given hgiven⟩
  | none =>
    cases hset : config.outDir with
    | some directory => exact ⟨directory, .set hgiven hset⟩
    | none => exact ⟨_, .usual hgiven hset⟩

/-- Reading a file leaves the session. -/
theorem run_read (session : Session σ) (path : String) :
    (Storage.read path : StateM (Session σ) (Except StorageError String)).run session =
      (FileSystem.read session.files path, session) :=
  rfl

theorem run_loadConfig_of_error {cause : StorageError}
    (h : FileSystem.read session.files path = .error cause) :
    (loadConfig path : StateM (Session σ) (Except ConfigError Config)).run session =
      (.error (.unreadable path cause), session) := by
  rw [loadConfig, run_bind_of_run (run_read session path), h]
  rfl

theorem run_loadConfig_of_ok {text : String}
    (h : FileSystem.read session.files path = .ok text) :
    (loadConfig path : StateM (Session σ) (Except ConfigError Config)).run session =
      ((Config.ofYaml? text).elim (.error (.invalid path)) .ok, session) := by
  rw [loadConfig, run_bind_of_run (run_read session path), h]
  simp only
  cases Config.ofYaml? text with
  | none => rfl
  | some config => rfl

/-- What is left of a run when the settings are loaded. -/
theorem run_of_settings (h : HasSettings arguments session.files config) :
    (run arguments : StateM (Session σ) Report).run session =
      (match arguments.input.or config.parseTree with
        | none => pure {
            exitCode := 2
            stderr := line "No parse tree provided: pass a path or set `parse-tree` in the config" }
        | some path => do
          match ← Storage.read path with
          | .error cause => return {
              exitCode := 2
              stderr := line ("Error reading " ++ path ++ ": " ++ cause.message) }
          | .ok tree => runOnTree arguments config tree :
        StateM (Session σ) Report).run session := by
  obtain ⟨text, hread, hconfig⟩ := h
  have hload := run_loadConfig_of_ok hread
  rw [hconfig] at hload
  rw [run, run_bind_of_run hload]
  rfl

theorem run_of_tree (h : HasTree arguments session.files config tree) :
    (run arguments : StateM (Session σ) Report).run session =
      (runOnTree arguments config tree : StateM (Session σ) Report).run session := by
  obtain ⟨path, hpath, hread⟩ := h.read
  rw [run_of_settings h.settings, inputPath_iff.1 hpath]
  simp only
  rw [run_bind_of_run (run_read session path), hread]

theorem run_of_prepared (h : Prepared arguments session.files config tables) :
    (run arguments : StateM (Session σ) Report).run session =
      (finishRun arguments config (generated config tables) (begun arguments config tables)
        !(failures config tables).isEmpty : StateM (Session σ) Report).run session := by
  obtain ⟨tree, htree, htables⟩ := h
  rw [run_of_tree htree, runOnTree, htables]
  simp only
  rw [sortResults_eq]
  rfl

theorem run_of_unwritten {directory : String} {e : OutputError} {left : σ}
    (hprepared : Prepared arguments session.files config tables)
    (hdirectory : OutDir arguments config directory)
    (hwrite : (Output.writeFiles directory (generated config tables) :
      StateM σ (Except OutputError (List String))).run session.files = (.error e, left)) :
    (run arguments : StateM (Session σ) Report).run session =
      (unwritten arguments config tables e, { session with files := left }) := by
  rw [run_of_prepared hprepared, finishRun, eq_of_outDir hdirectory,
    run_bind_of_run (run_writeFiles hwrite)]
  rfl

/-- **A run that stops leaves everything as it was.** -/
theorem run_of_stops (h : Stops arguments session.files said) :
    (run arguments : StateM (Session σ) Report).run session =
      ({ exitCode := 2, stderr := said }, session) := by
  cases h with
  | unreadableSettings h =>
    rw [run, run_bind_of_run (run_loadConfig_of_error h)]
    rfl
  | invalidSettings hread h =>
    have hload := run_loadConfig_of_ok hread
    rw [h] at hload
    rw [run, run_bind_of_run hload]
    rfl
  | @noInput config hsettings h =>
    have hnone : arguments.input.or config.parseTree = none := by
      rw [Option.eq_none_iff_forall_ne_some]
      intro path hpath
      exact h ⟨path, inputPath_iff.2 hpath⟩
    rw [run_of_settings hsettings, hnone]
    rfl
  | unreadableTree hsettings hpath h =>
    rw [run_of_settings hsettings, inputPath_iff.1 hpath]
    simp only
    rw [run_bind_of_run (run_read session _), h]
    rfl
  | refusedTree htree h =>
    rw [run_of_tree htree, runOnTree, h]
    rfl
  | @refusedNames config tables e hprepared h =>
    obtain ⟨directory, hdirectory⟩ := exists_outDir arguments config
    exact run_of_unwritten hprepared hdirectory (Output.run_of_refused h)

/-- A run is stopped, or it has files to write. -/
theorem stops_or_prepared (arguments : Arguments) (files : σ) :
    (∃ said, Stops arguments files said) ∨
      ∃ config tables, Prepared arguments files config tables ∧
        Output.checkStems (generated config tables) = .ok () := by
  cases htext : FileSystem.read files arguments.config with
  | error cause => exact .inl ⟨_, .unreadableSettings htext⟩
  | ok text =>
    cases hconfig : Config.ofYaml? text with
    | none => exact .inl ⟨_, .invalidSettings htext hconfig⟩
    | some config =>
      have hsettings : HasSettings arguments files config := ⟨text, htext, hconfig⟩
      by_cases hpath : ∃ path, InputPath arguments config path
      case neg => exact .inl ⟨_, .noInput hsettings hpath⟩
      obtain ⟨path, hpath⟩ := hpath
      cases hread : FileSystem.read files path with
      | error cause => exact .inl ⟨_, .unreadableTree hsettings hpath hread⟩
      | ok tree =>
        have htree : HasTree arguments files config tree := ⟨hsettings, path, hpath, hread⟩
        cases htables : ParseTree.tablesOfText tree with
        | error e => exact .inl ⟨_, .refusedTree htree htables⟩
        | ok tables =>
          have hprepared : Prepared arguments files config tables := ⟨tree, htree, htables⟩
          cases hnames : Output.checkStems (generated config tables) with
          | error e => exact .inl ⟨_, .refusedNames hprepared hnames⟩
          | ok => exact .inr ⟨config, tables, hprepared, hnames⟩

end Stages

/-! ## The formatter -/

/-- The formatter fails: it cannot be started, or it ends with an exit code other than 0. -/
inductive FormatterFails : FormatterOutcome → OutputError → Prop
  | unavailable {cause : StorageError} :
    FormatterFails (.unavailable cause) (.startFormatter formatterName cause)
  | finished {code : Int} {said : String} (h : code ≠ 0) :
    FormatterFails (.finished code said)
      (.formatter formatterName (.ofList (Unicode.trim said.toList)))

section Formatter

variable {σ : Type} {paths : List String}

theorem run_formatFiles_of_fails (session : Session σ) {e : OutputError} (hpaths : paths ≠ [])
    (h : FormatterFails session.formatter e) :
    ∃ formatted, (formatFiles paths : StateM (Session σ) (Except OutputError Unit)).run session =
      (.error e, { session with formatted }) := by
  unfold formatFiles
  rw [if_neg (mt List.isEmpty_iff.1 hpaths)]
  obtain ⟨files, formatter, formatted⟩ := session
  cases h with
  | unavailable => exact ⟨formatted, rfl⟩
  | @finished code said hcode =>
    refine ⟨some ("-w" :: paths), ?_⟩
    show StateT.run (if code = 0 then _ else _) _ = _
    rw [if_neg hcode]
    rfl

theorem run_formatFiles_of_not (session : Session σ)
    (h : paths ≠ [] → ¬∃ e, FormatterFails session.formatter e) :
    ∃ formatted, (formatFiles paths : StateM (Session σ) (Except OutputError Unit)).run session =
      (.ok (), { session with formatted }) := by
  unfold formatFiles
  by_cases hpaths : paths = []
  · rw [if_pos (List.isEmpty_iff.2 hpaths)]
    exact ⟨session.formatted, rfl⟩
  rw [if_neg (mt List.isEmpty_iff.1 hpaths)]
  obtain ⟨files, formatter, formatted⟩ := session
  cases formatter with
  | unavailable cause => exact absurd ⟨_, .unavailable⟩ (h hpaths)
  | finished code said =>
    have hcode : code = 0 := by
      apply Classical.byContradiction
      intro hne
      exact h hpaths ⟨_, .finished hne⟩
    refine ⟨some ("-w" :: paths), ?_⟩
    show StateT.run (if code = 0 then _ else _) _ = _
    rw [if_pos hcode]
    rfl

end Formatter

end EntSchema.CommandLine
