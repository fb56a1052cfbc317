import EntSchema.Proofs.CommandLine.Stages
import EntSchema.Proofs.Output.Writing
import EntSchema.Proofs.ParseTree.Nodes

/-!
# What a run of the program comes to

A run has five stages, and each fails in its own way. Settings, parse tree and names of files stop
it before anything is written. A table without a schema file is reported and left out. The formatter
comes last, when the files are there already.

`runCommand_contract` says for every file system that is a map, and for every formatter, what is
left behind, what is said and which exit code it is, from what the run reads and from whether the
files could be written.
-/

namespace EntSchema.CommandLine

open Fold Storage Relational PlacedFileSystem PathMap

/-! ## What a run comes to -/

/-- The files are to be formatted, there are some, and the formatter fails. -/
structure FormattingFails (config : Config) (tables : List Table) (formatter : FormatterOutcome)
    (e : OutputError) : Prop where
  format : config.format = true
  files : ∃ table ∈ tables, ∃ file, Schema.fileOf config table = .ok file
  fails : FormatterFails formatter e

/-- What is said up to the files having been written. -/
def reported (arguments : Arguments) (config : Config) (tables : List Table)
    (directory : String) : String :=
  let paths := (generated config tables).map (Output.filePath directory)
  begun arguments config tables ++
    String.join (if arguments.verbose then paths.map fun path => line ("Wrote " ++ path) else [])

/-- How a run ends that has written its files. A failure of the formatter counts more than one of a
table. -/
inductive Ends (arguments : Arguments) (config : Config) (tables : List Table)
    (directory : String) (formatter : FormatterOutcome) : Report → Prop
  | unformatted {e : OutputError} (h : FormattingFails config tables formatter e) :
    Ends arguments config tables directory formatter
      { exitCode := 2
        stderr := reported arguments config tables directory ++
          line ("Error formatting output: " ++ e.message) }
  | incomplete (hformatted : ¬∃ e, FormattingFails config tables formatter e)
      (h : ∃ table ∈ tables, ∃ e, Schema.fileOf config table = .error e) :
    Ends arguments config tables directory formatter
      { exitCode := 1, stderr := reported arguments config tables directory }
  | complete (hformatted : ¬∃ e, FormattingFails config tables formatter e)
      (h : ∀ table ∈ tables, ∃ file, Schema.fileOf config table = .ok file) :
    Ends arguments config tables directory formatter
      { exitCode := 0, stderr := reported arguments config tables directory }

/-- The path of the schema file of a table. -/
def tablePath (directory : String) (table : Table) : String :=
  joinPath directory (Naming.singularize table.name ++ ".go")

/-- The schema files are there, one for each table that has one, and no other file was made or
changed. -/
structure HoldsFiles {σ : Type} [PathMap σ] (config : Config) (tables : List Table)
    (directory : String) (before after : σ) : Prop where
  place_eq : place after = place before
  held : ∀ table ∈ tables, ∀ file, Schema.fileOf config table = .ok file →
    entry? after (place before (tablePath directory table)) = some (.file file.render)
  kept : ∀ spot, (∀ table ∈ tables, ∀ file, Schema.fileOf config table = .ok file →
    spot ≠ place before (tablePath directory table)) → fileAt? after spot = fileAt? before spot

/-! ## The files of the tables -/

section Files

variable {σ : Type} [PathMap σ] {config : Config} {tables : List Table} {table : Table}
  {file : SchemaFile} {directory : String} {before after : σ} {paths : List String}

theorem filePath_of_fileOf (directory : String) (h : Schema.fileOf config table = .ok file) :
    Output.filePath directory file = tablePath directory table := by
  rw [Output.filePath, (Schema.names_of_fileOf h).1]
  rfl

/-- Writing that goes through gives the paths of the files. -/
theorem paths_of_written
    (h : (Output.writeFiles directory (generated config tables) :
      StateM σ (Except OutputError (List String))).run before = (.ok paths, after)) :
    paths = (generated config tables).map (Output.filePath directory) := by
  cases Output.writes_run h with
  | files _ _ heach =>
    cases heach with
    | all => rfl

/-- **Writing that goes through makes the schema files of the tables, and no others.** -/
theorem holdsFiles_of_written
    (h : (Output.writeFiles directory (generated config tables) :
      StateM σ (Except OutputError (List String))).run before = (.ok paths, after)) :
    HoldsFiles config tables directory before after := by
  cases Output.writes_run h with
  | @files made _ _ hnames hmake heach =>
    have hmore : MoreDirectories before made := by
      have hadds := makeDirectories_adds directory before
      rwa [hmake] at hadds
    have hspots := (Output.apart_of_checkStems hnames directory made).spots
    cases Output.written_of_writesEach hspots heach with
    | all _ hfilled =>
      have hspot : ∀ table file, Schema.fileOf config table = .ok file →
          Output.spot made directory file = place before (tablePath directory table) := by
        intro table file hfile
        rw [Output.spot, filePath_of_fileOf directory hfile, hmore.place_eq]
      constructor
      · exact hfilled.place_eq.trans hmore.place_eq
      · intro table htable file hfile
        rw [← hspot table file hfile]
        exact hfilled.held file (mem_generated_iff.2 ⟨table, htable, hfile⟩)
      · intro other hother
        have hkept : entry? after other = entry? made other := by
          apply hfilled.kept
          intro file hmem
          obtain ⟨table, htable, hfile⟩ := mem_generated_iff.1 hmem
          rw [hspot table file hfile]
          exact hother table htable file hfile
        rw [← hmore.fileAt?_eq other]
        unfold fileAt?
        rw [hkept]

end Files

/-! ## Runs -/

section Runs

variable {σ : Type} [PathMap σ] {arguments : Arguments} {config : Config} {tables : List Table}
  {directory : String} {session : Session σ} {written : σ} {paths : List String}

omit [PathMap σ] in
/-- The exit code when the formatter does not fail. -/
theorem ends_of_formatted (arguments : Arguments) (directory : String)
    {formatter : FormatterOutcome} (h : ¬∃ e, FormattingFails config tables formatter e) :
    Ends arguments config tables directory formatter
      { exitCode := if (!(failures config tables).isEmpty) = true then 1 else 0
        stderr := reported arguments config tables directory } := by
  by_cases hfailures : failures config tables = []
  · have hall : ∀ table ∈ tables, ∃ file, Schema.fileOf config table = .ok file := by
      intro table htable
      cases hfile : Schema.fileOf config table with
      | ok file => exact ⟨file, rfl⟩
      | error e => exact absurd hfailures (failures_ne_nil_iff.2 ⟨table, htable, e, hfile⟩)
    rw [hfailures]
    exact .complete h hall
  · have hsome : (!(failures config tables).isEmpty) = true := by
      rw [List.isEmpty_eq_false_iff.2 hfailures]
      rfl
    rw [if_pos hsome]
    exact .incomplete h (failures_ne_nil_iff.1 hfailures)

/-- **How a run ends that has written its files.** -/
theorem run_of_written (hprepared : Prepared arguments session.files config tables)
    (hdirectory : OutDir arguments config directory)
    (hwrite : (Output.writeFiles directory (generated config tables) :
      StateM σ (Except OutputError (List String))).run session.files = (.ok paths, written)) :
    ∃ report after, (run arguments : StateM (Session σ) Report).run session = (report, after) ∧
      after.files = written ∧ Ends arguments config tables directory session.formatter report := by
  have hpaths := paths_of_written hwrite
  have hne : paths ≠ [] ↔ ∃ table ∈ tables, ∃ file, Schema.fileOf config table = .ok file := by
    rw [← generated_ne_nil_iff, hpaths, Ne, List.map_eq_nil_iff]
  rw [run_of_prepared hprepared, finishRun, eq_of_outDir hdirectory,
    run_bind_of_run (run_writeFiles hwrite)]
  simp only
  by_cases hfails : ∃ e, FormattingFails config tables session.formatter e
  · obtain ⟨e, hfails⟩ := hfails
    obtain ⟨formatted, hformat⟩ := run_formatFiles_of_fails { session with files := written }
      (hne.2 hfails.files) hfails.fails
    rw [if_pos hfails.format, run_bind_of_run hformat]
    subst hpaths
    exact ⟨_, _, rfl, rfl, .unformatted hfails⟩
  · have hformat : ∃ formatted,
        (if config.format then formatFiles paths else pure (.ok ()) :
          StateM (Session σ) (Except OutputError Unit)).run { session with files := written } =
            (.ok (), { session with files := written, formatted }) := by
      by_cases hset : config.format = true
      · rw [if_pos hset]
        apply run_formatFiles_of_not
        rintro hpaths ⟨e, h⟩
        exact hfails ⟨e, hset, hne.1 hpaths, h⟩
      · rw [if_neg hset]
        exact ⟨session.formatted, rfl⟩
    obtain ⟨formatted, hformat⟩ := hformat
    have hends := ends_of_formatted arguments directory hfails
    rw [← apply_ite (· >>= _), run_bind_of_run hformat]
    subst hpaths
    exact ⟨_, _, rfl, rfl, hends⟩

/-- **The contract of the command line.** A run that is stopped by what it reads, by the parse tree
or by the names of files exits with 2 and leaves everything as it was. A run whose files are written
makes the file of every table that has one, and no other; it reports every other table, and exits
with 2 if the formatter then fails, otherwise with 1 if there is such a table, otherwise with 0. A
run that fails while it writes exits with 2. Every run is stopped or has files to write. -/
theorem runCommand_contract {words : List String}
    (hwords : Request.ofArguments words = .run arguments) (session : Session σ) :
    (∀ said, Stops arguments session.files said →
      (runCommand words : StateM (Session σ) Report).run session =
        ({ exitCode := 2, stderr := said }, session)) ∧
    (∀ config tables directory paths written,
      Prepared arguments session.files config tables → OutDir arguments config directory →
      (Output.writeFiles directory (generated config tables) :
        StateM σ (Except OutputError (List String))).run session.files = (.ok paths, written) →
      ∃ report after, (runCommand words : StateM (Session σ) Report).run session = (report, after) ∧
        after.files = written ∧ HoldsFiles config tables directory session.files written ∧
        Ends arguments config tables directory session.formatter report) ∧
    (∀ config tables directory e left,
      Prepared arguments session.files config tables → OutDir arguments config directory →
      (Output.writeFiles directory (generated config tables) :
        StateM σ (Except OutputError (List String))).run session.files = (.error e, left) →
      (runCommand words : StateM (Session σ) Report).run session =
        (unwritten arguments config tables e, { session with files := left })) ∧
    ((∃ said, Stops arguments session.files said) ∨
      ∃ config tables, Prepared arguments session.files config tables ∧
        Output.checkStems (generated config tables) = .ok ()) := by
  have hrun : (runCommand words : StateM (Session σ) Report) = run arguments := by
    rw [runCommand, hwords]
  rw [hrun]
  refine ⟨?_, ?_, ?_, stops_or_prepared arguments session.files⟩
  · intro said h
    exact run_of_stops h
  · intro config tables directory paths written hprepared hdirectory hwrite
    obtain ⟨report, after, hrun, hfiles, hends⟩ := run_of_written hprepared hdirectory hwrite
    exact ⟨report, after, hrun, hfiles, holdsFiles_of_written hwrite, hends⟩
  · intro config tables directory e left hprepared hdirectory hwrite
    exact run_of_unwritten hprepared hdirectory hwrite

end Runs

/-! ## A table that fails, and a formatter that is not there -/

/-- Settings that have the files formatted, with a builder for one type. -/
def textSettings : Config where
  format := true
  builders := [("text", "field.String(\"%s\")")]

/-- The statements for two tables. -/
def placesTree : Json :=
  ParseTree.scriptNode
    [ ParseTree.tableNode "tags" [ParseTree.columnNode "label" "text" []]
    , ParseTree.tableNode "places" [ParseTree.columnNode "location" "geometry" []] ]

/-- The tables of `placesTree`. There is no builder for the type of the second one. -/
def placesTables : List Table :=
  [ { name := "tags", columns := [{ name := "label", type := "text" }] }
  , { name := "places", columns := [{ name := "location", type := "geometry" }] } ]

/-- The files for a run on `placesTree`. -/
def placesSession : Session FileTree where
  files :=
    { entries :=
        [ (["pg2ent.yaml"], .file "format: true\ntype:\n  text: field.String(\"%s\")\n")
        , (["tree.json"], .file placesTree.render) ] }
  formatter := .unavailable .notFound

/-- A text is read by its characters. -/
theorem parse?_of_toList {text : String} {chars : List Char} (h : text.toList = chars) :
    Json.parse? text =
      match Json.readValue (2 * chars.length + 2) Json.greatestDepth (Json.dropGap chars) with
      | some (value, rest) => if (Json.dropGap rest).isEmpty then some value else none
      | none => none := by
  subst h
  rfl

theorem tablesOfText_placesTree : ParseTree.tablesOfText placesTree.render = .ok placesTables := by
  have hchars : placesTree.render.toList = placesTree.chars := String.toList_ofList
  rw [ParseTree.tablesOfText, parse?_of_toList hchars]
  decide +kernel

theorem prepared_placesSession :
    Prepared { input := some "tree.json" } placesSession.files textSettings placesTables := by
  have hsettings : HasSettings { input := some "tree.json" } placesSession.files textSettings :=
    ⟨_, rfl, by decide +kernel⟩
  exact ⟨placesTree.render, ⟨hsettings, "tree.json", .given rfl, rfl⟩, tablesOfText_placesTree⟩

/-- One file is written, one table reported, and the exit code is that of the formatter. -/
theorem placesSession_exitCode :
    Request.ofArguments ["tree.json"] = .run { input := some "tree.json" } ∧
      Prepared { input := some "tree.json" } placesSession.files textSettings placesTables ∧
      ∃ written report after,
        (Output.writeFiles "ent/schema" (generated textSettings placesTables) :
          StateM FileTree (Except OutputError (List String))).run placesSession.files =
            (.ok ["ent/schema/tag.go"], written) ∧
        (runCommand ["tree.json"] : StateM (Session FileTree) Report).run placesSession =
          (report, after) ∧
        after.files = written ∧
        HoldsFiles textSettings placesTables "ent/schema" placesSession.files written ∧
        report.exitCode = 2 := by
  have hwords : Request.ofArguments ["tree.json"] = .run { input := some "tree.json" } := rfl
  have hresult : ((Output.writeFiles "ent/schema" (generated textSettings placesTables) :
      StateM FileTree (Except OutputError (List String))).run placesSession.files).1 =
        .ok ["ent/schema/tag.go"] := by
    decide +kernel
  obtain ⟨written, hwrite⟩ := exists_run_of_value hresult
  have hfiles : generated textSettings placesTables ≠ [] := by
    intro hnone
    have hpaths := paths_of_written hwrite
    rw [hnone] at hpaths
    cases hpaths
  have hfails : FormattingFails textSettings placesTables placesSession.formatter
      (.startFormatter formatterName .notFound) :=
    ⟨rfl, generated_ne_nil_iff.1 hfiles, .unavailable⟩
  obtain ⟨report, after, hrun, hafter, hholds, hends⟩ :=
    (runCommand_contract hwords placesSession).2.1 _ _ _ _ _ prepared_placesSession
      (.usual rfl rfl) hwrite
  have hexit : report.exitCode = 2 := by
    cases hends with
    | unformatted => rfl
    | incomplete hformatted => exact absurd ⟨_, hfails⟩ hformatted
    | complete hformatted => exact absurd ⟨_, hfails⟩ hformatted
  exact ⟨hwords, prepared_placesSession, written, report, after, hwrite, hrun, hafter, hholds,
    hexit⟩

end EntSchema.CommandLine
