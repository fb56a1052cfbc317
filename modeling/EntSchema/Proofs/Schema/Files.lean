import EntSchema.Proofs.Fold
import EntSchema.Proofs.Ordered.Set
import EntSchema.Schema.File

/-!
# What a schema file is made of

A table has a schema file exactly when each of its columns has an outcome (`fileOf_eq_ok`), and
otherwise the first column without one says why (`fileOf_eq_error`). The imports of the file are
those of the columns together, as an increasing list.
-/

namespace EntSchema.Schema

open Relational Config Fold

variable {config : Config} {table : Table} {file : SchemaFile} {results : List FieldResult}

/-- The text of the declaration of a column; none for a column that has none. -/
def FieldResult.text? (result : FieldResult) : Option String :=
  result.outcome.toOption.bind (·.text?)

/-- Every column has an outcome. -/
def AllSettled (config : Config) (table : Table) : Prop :=
  ∀ column ∈ table.columns, ∃ outcome, (fieldOf config table.name column).outcome = .ok outcome

/-- The content of the schema file of a table whose columns all have an outcome. -/
def contentOf (config : Config) (table : Table) : SchemaFile where
  stem := Naming.singularize table.name
  imports := importsOf (table.columns.map (fieldOf config table.name))
  entity := Naming.upperCamel (Naming.singularize table.name)
  annotations := annotationsOf table
  fields := table.columns.filterMap fun column => (fieldOf config table.name column).text?
  indexes := table.indexes.map indexText

/-- **A table has a file exactly when each of its columns has an outcome.** -/
theorem fileOf_eq_ok :
    fileOf config table = .ok file ↔ AllSettled config table ∧ file = contentOf config table := by
  have hfields : (table.columns.filterMap fun column =>
      (fieldOf config table.name column).outcome.toOption).filterMap Outcome.text? =
        (contentOf config table).fields := by
    rw [List.filterMap_filterMap]
    rfl
  have hcontent := congrArg (fun fields => { contentOf config table with fields }) hfields
  rw [fileOf, bind_eq_ok]
  constructor
  · rintro ⟨outcomes, houtcomes, hfile⟩
    rw [List.mapM_map, mapM_eq_ok] at houtcomes
    obtain ⟨hall, rfl⟩ := houtcomes
    exact ⟨hall, (pure_eq_ok.1 hfile).symm.trans hcontent⟩
  · rintro ⟨hall, rfl⟩
    refine ⟨_, ?_, pure_eq_ok.2 hcontent⟩
    rw [List.mapM_map, mapM_eq_ok]
    exact ⟨hall, rfl⟩

/-- The names in a schema file are made of the name of its table. -/
theorem names_of_fileOf (h : fileOf config table = .ok file) :
    file.stem = Naming.singularize table.name ∧ file.entity = Naming.upperCamel file.stem := by
  obtain ⟨-, rfl⟩ := fileOf_eq_ok.1 h
  exact ⟨rfl, rfl⟩

/-- **A table has no file as its first column says that has no outcome.** -/
theorem fileOf_eq_error {e : FieldError} :
    fileOf config table = .error e ↔
      ∃ before column after, table.columns = before ++ column :: after ∧
        (∀ earlier ∈ before, ∃ outcome,
          (fieldOf config table.name earlier).outcome = .ok outcome) ∧
        (fieldOf config table.name column).outcome = .error e := by
  rw [fileOf, bind_eq_error, List.mapM_map]
  refine Iff.trans (or_iff_left ?_) mapM_eq_error
  rintro ⟨outcomes, -, hpure⟩
  cases hpure

/-! ## Imports -/

/-- The imports of some columns are those of each. -/
theorem mem_importsOf {path : String} :
    path ∈ importsOf results ↔ ∃ result ∈ results, path ∈ result.imports := by
  suffices hall : ∀ imports : List String,
      path ∈ results.foldl (fun set result => Ordered.insertAll set result.imports) imports ↔
        path ∈ imports ∨ ∃ result ∈ results, path ∈ result.imports by
    rw [importsOf, hall, or_iff_right List.not_mem_nil]
  induction results with
  | nil => simp
  | cons result rest ih =>
    intro imports
    rw [List.foldl_cons, ih, Ordered.mem_insertAll, List.exists_mem_cons_iff, or_assoc]

/-- Only the imports of the columns matter. -/
theorem importsOf_eq (results : List FieldResult) :
    importsOf results = (results.map (·.imports)).foldl Ordered.insertAll [] := by
  rw [List.foldl_map]
  rfl

theorem mem_contentOf_imports {path : String} :
    path ∈ (contentOf config table).imports ↔
      ∃ column ∈ table.columns, path ∈ (fieldOf config table.name column).imports := by
  rw [contentOf, mem_importsOf]
  constructor
  · rintro ⟨result, hresult, hpath⟩
    obtain ⟨column, hcolumn, rfl⟩ := List.mem_map.1 hresult
    exact ⟨column, hcolumn, hpath⟩
  · rintro ⟨column, hcolumn, hpath⟩
    exact ⟨_, List.mem_map_of_mem hcolumn, hpath⟩

theorem increasing_importsOf (results : List FieldResult) :
    Ordered.Increasing (importsOf results) := by
  suffices hall : ∀ imports, Ordered.Increasing imports → Ordered.Increasing
      (results.foldl (fun imports result => Ordered.insertAll imports result.imports) imports) by
    exact hall [] List.Pairwise.nil
  induction results with
  | nil => exact fun _ h => h
  | cons result rest ih => exact fun imports h => ih _ (h.insertAll result.imports)

/-! ## A table of events -/

/-- Settings with two overrides for one column, and with a refinement that `eventTable` has no use
for. -/
def eventSettings : Config where
  switches := { immutableColumns := ["at"] }
  builders :=
    [ ("bytea", "field.Bytes(\"%s\")"), ("int8", "field.Int64(\"%s\")")
    , ("text", "field.String(\"%s\")"), ("timestamptz", "field.Time(\"%s\")")
    , ("uuid", "field.UUID(\"%s\")") ]
  refinements :=
    [ ("field.Bytes(\"%s\")", { imports := ["bytes"] })
    , ("field.UUID(\"%s\")",
        { builder := some "field.UUID(\"%s\", uuid.UUID\x7b\x7d)"
          imports := ["github.com/google/uuid"] }) ]
  overrides :=
    [ { name := "payload", matchers := [{ property := .type, expected := some (.text "jsonb") }]
        template := "field.JSON(\"%s\", json.RawMessage\x7b\x7d)", imports := ["encoding/json"] }
    , { name := "nullable", matchers := [{ property := .isNotNull, expected := some (.flag false) }]
        template := "field.Any(\"%s\", sql.NullString\x7b\x7d)", imports := ["database/sql"] } ]

/-- A column that is not null and that the database fills in. -/
def filledColumn : Column where
  name := "at"
  type := "timestamptz"
  isNotNull := true
  default := some (.call "now")

/-- A table with an implicit key, a key with a default value, an overridden column, and
`filledColumn`. -/
def eventTable : Table where
  name := "events"
  columns :=
    [ { name := "id", type := "int8", isPrimary := true, isNotNull := true }
    , { name := "token", type := "uuid", isPrimary := true, isNotNull := true
        default := some (.call "gen_random_uuid") }
    , { name := "payload", type := "jsonb" }
    , filledColumn ]

/-- The content of the schema file of `eventTable`. -/
def eventFile : SchemaFile where
  stem := "event"
  imports := ["encoding/json", "entgo.io/ent/dialect/entsql", "github.com/google/uuid"]
  entity := "Event"
  fields :=
    [ "field.UUID(\"token\", uuid.UUID\x7b\x7d)", "field.JSON(\"payload\", json.RawMessage\x7b\x7d)"
    , "field.Time(\"at\").\nOptional().\nDefault(now).\n" ++
        "Annotations(&entsql.Annotation\x7b\n\tDefault: \"now()\",\n\x7d).\nImmutable()" ]

theorem fileOf_eventTable : fileOf eventSettings eventTable = .ok eventFile := by
  decide +kernel

end EntSchema.Schema
