import EntSchema.Proofs.Schema.Files
import EntSchema.Proofs.Schema.Modifiers
import EntSchema.Proofs.Schema.Rules

/-!
# Imports are exact

A source file with a missing import does not compile, and neither does one with an import that it
has no use for. `NeedsImport` says what a column needs: an override brings its imports and nothing
else counts then; the refinement of a builder brings its own; an annotation for the database needs
its package. A schema file has the imports that its columns need and no more
(`mem_imports_iff_needed`), although the rules come across them in three places, and the annotation
is made in another one.
-/

namespace EntSchema.Schema

open Relational Config

/-- A column needs an import for its declaration. -/
inductive NeedsImport (config : Config) (column : Column) : String → Prop
  | override {rule : Override} {path : String}
      (hrule : firstOverride? config.overrides column = some rule) (hpath : path ∈ rule.imports) :
    NeedsImport config column path
  | refinement {builder path : String} {refinement : Refinement}
      (hrule : firstOverride? config.overrides column = none)
      (hbuilder : config.builders.lookup column.type = some builder)
      (hrefinement : config.refinements.lookup builder = some refinement)
      (hpath : path ∈ refinement.imports) :
    NeedsImport config column path
  | rawDefault {value : DefaultValue} {sql : String}
      (hrule : firstOverride? config.overrides column = none)
      (hprimary : column.isPrimary = false) (hdefault : column.default = some value)
      (hsql : value.rawSql? = some sql) :
    NeedsImport config column entsqlImport

variable {config : Config} {table : Table} {column : Column} {builder path sql : String}

theorem mem_builderImports :
    path ∈ builderImports config builder ↔
      ∃ refinement, config.refinements.lookup builder = some refinement ∧
        path ∈ refinement.imports := by
  rw [builderImports]
  cases config.refinements.lookup builder <;> simp

theorem mem_defaultImports :
    path ∈ defaultImports column ↔
      path = entsqlImport ∧ ∃ value sql, declaredDefault? column = some value ∧
        value.rawSql? = some sql := by
  rw [defaultImports]
  cases hdefault : declaredDefault? column with
  | none => simp
  | some value => cases hsql : value.rawSql? <;> simp [hsql]

/-- What a column needs that goes by its type comes with its builder and with its default value. -/
theorem needsImport_iff_of_builder (hrule : firstOverride? config.overrides column = none)
    (hbuilder : config.builders.lookup column.type = some builder) :
    NeedsImport config column path ↔
      path ∈ builderImports config builder ∨ path ∈ defaultImports column := by
  rw [mem_builderImports, mem_defaultImports]
  constructor
  · intro h
    cases h with
    | override hfound =>
      rw [hrule] at hfound
      cases hfound
    | refinement _ hfound hrefinement hpath =>
      rw [hbuilder, Option.some.injEq] at hfound
      rw [← hfound] at hrefinement
      exact .inl ⟨_, hrefinement, hpath⟩
    | rawDefault _ hprimary hdefault hsql =>
      exact .inr ⟨rfl, _, _, declaredDefault?_eq_some.2 ⟨hdefault, hprimary⟩, hsql⟩
  · rintro (⟨refinement, hrefinement, hpath⟩ | ⟨rfl, value, sql, hdeclared, hsql⟩)
    · exact .refinement hrule hbuilder hrefinement hpath
    · obtain ⟨hdefault, hprimary⟩ := declaredDefault?_eq_some.1 hdeclared
      exact .rawDefault hrule hprimary hdefault hsql

/-- A column with an outcome adds the imports that it needs, unless it is left out. -/
theorem mem_fieldOf_imports {name : String} {outcome : Outcome}
    (h : (fieldOf config name column).outcome = .ok outcome) :
    path ∈ (fieldOf config name column).imports ↔
      (fieldOf config name column).outcome ≠ .ok .skipped ∧ NeedsImport config column path := by
  have hruled := ruled_fieldOf config name column
  generalize fieldOf config name column = result at h hruled
  cases hruled with
  | skipped hkey =>
    cases h
    simp
  | overridden hkey hrule =>
    cases h
    refine ⟨fun hpath => ⟨nofun, .override hrule hpath⟩, ?_⟩
    rintro ⟨-, hneeds⟩
    cases hneeds with
    | override hfound hpath =>
      rw [hrule, Option.some.injEq] at hfound
      rw [hfound]
      exact hpath
    | refinement hnone => rw [hrule] at hnone; cases hnone
    | rawDefault hnone => rw [hrule] at hnone; cases hnone
  | unmapped htype hbuilder => cases h
  | conflicting htype hbuilder hdefault hunique => cases h
  | mapped htype hbuilder hunique =>
    cases h
    rw [needsImport_iff_of_builder htype.noOverride hbuilder, List.mem_append]
    exact (and_iff_right nofun).symm

/-- A declaration has an annotation for the default value that it mentions, when the database
evaluates that, and for no other one. -/
theorem rawDefault_mem_columnLinks {switches : Switches} {refinement : Option Refinement} :
    .rawDefault sql ∈ columnLinks switches column builder refinement ↔
      ∃ value, declaredDefault? column = some value ∧ value.rawSql? = some sql := by
  have hbuilder : .rawDefault sql ∉ builderLinks column builder refinement := by
    obtain ⟨text, goType, schemaType, hlinks⟩ := exists_builderLinks column builder refinement
    rw [hlinks]
    cases goType <;> cases schemaType <;> simp
  have hnull : .rawDefault sql ∉ nullLinks column := by
    rw [nullLinks]
    split <;> simp
  have hclosing : .rawDefault sql ∉ closingLinks switches column := by
    rw [mem_closingLinks]
    simp
  rw [columnLinks_eq, List.mem_append, List.mem_append, List.mem_append, or_iff_right hbuilder,
    or_iff_right hnull, or_iff_left hclosing, defaultGroup]
  cases declaredDefault? column with
  | none => simp
  | some value => simp [rawDefault_mem_defaultLinks]

/-- A field with an annotation needs the package of annotations. An override never has one. -/
theorem needsImport_of_rawDefault_mem {name : String} {links : List Link}
    (hlinks : (fieldOf config name column).outcome = .ok (.declared links))
    (hraw : .rawDefault sql ∈ links) : NeedsImport config column entsqlImport := by
  rcases links_of_declared hlinks with ⟨rule, -, rfl⟩ | ⟨builder, hrule, -, rfl⟩
  · cases List.mem_singleton.1 hraw
  · obtain ⟨value, hdeclared, hsql⟩ := rawDefault_mem_columnLinks.1 hraw
    obtain ⟨hdefault, hprimary⟩ := declaredDefault?_eq_some.1 hdeclared
    exact .rawDefault hrule hprimary hdefault hsql

/-- **The imports of a schema file are those that its columns need.** In particular a field with an
annotation for the database has its import, whatever the switches. -/
theorem mem_imports_iff_needed {file : SchemaFile} (h : fileOf config table = .ok file) :
    (∀ path, path ∈ file.imports ↔ ∃ column ∈ table.columns,
      (fieldOf config table.name column).outcome ≠ .ok .skipped ∧
        NeedsImport config column path) ∧
      ∀ column ∈ table.columns, ∀ links sql,
        (fieldOf config table.name column).outcome = .ok (.declared links) →
        .rawDefault sql ∈ links →
        chainText links ∈ file.fields ∧ entsqlImport ∈ file.imports := by
  obtain ⟨hall, rfl⟩ := fileOf_eq_ok.1 h
  have himports : ∀ path, path ∈ (contentOf config table).imports ↔ ∃ column ∈ table.columns,
      (fieldOf config table.name column).outcome ≠ .ok .skipped ∧
        NeedsImport config column path := by
    intro path
    rw [mem_contentOf_imports]
    refine exists_congr fun column => and_congr_right fun hcolumn => ?_
    obtain ⟨outcome, houtcome⟩ := hall column hcolumn
    exact mem_fieldOf_imports houtcome
  refine ⟨himports, ?_⟩
  intro column hcolumn links sql hlinks hraw
  constructor
  · refine List.mem_filterMap.2 ⟨column, hcolumn, ?_⟩
    rw [FieldResult.text?, hlinks]
    rfl
  · have hneeds := needsImport_of_rawDefault_mem hlinks hraw
    refine (himports entsqlImport).2 ⟨column, hcolumn, ?_, hneeds⟩
    rw [hlinks]
    nofun

/-- The settings of the events without default values. -/
def silentSettings : Config := { eventSettings with switches := { noDefault := true } }

/-- Without default values the annotation stays, and so does its import. What a second override and
the refinement of another builder would bring is needed by no column. -/
theorem eventTable_needed :
    ∃ file, fileOf silentSettings eventTable = .ok file ∧
      chainText [.builder "field.Time(\"at\")", .optional, .rawDefault "now()"] ∈ file.fields ∧
      entsqlImport ∈ file.imports ∧
      ∀ path ∈ ["bytes", "database/sql"], ∀ column ∈ eventTable.columns,
        (fieldOf silentSettings eventTable.name column).outcome ≠ .ok .skipped →
        ¬NeedsImport silentSettings column path := by
  have hall : AllSettled silentSettings eventTable := by
    simp only [AllSettled, eventTable, List.forall_mem_cons]
    exact ⟨⟨_, rfl⟩, ⟨_, rfl⟩, ⟨_, rfl⟩, ⟨_, rfl⟩, nofun⟩
  have hfile := fileOf_eq_ok.2 ⟨hall, rfl⟩
  have hunneeded : ∀ path ∈ ["bytes", "database/sql"],
      path ∉ (contentOf silentSettings eventTable).imports := by
    decide +kernel
  obtain ⟨himports, hannotated⟩ := mem_imports_iff_needed hfile
  obtain ⟨hfield, hpackage⟩ := hannotated filledColumn (by decide)
    [.builder "field.Time(\"at\")", .optional, .rawDefault "now()"] "now()" (by decide +kernel)
    (by decide)
  refine ⟨_, hfile, hfield, hpackage, ?_⟩
  intro path hpath column hcolumn hdeclared hneeds
  exact hunneeded path hpath ((himports path).2 ⟨column, hcolumn, hdeclared, hneeds⟩)

end EntSchema.Schema
