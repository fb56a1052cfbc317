import EntSchema.Proofs.CommandLine.Stages
import EntSchema.Proofs.Naming.Camel
import EntSchema.Proofs.Output.Writing
import EntSchema.Proofs.ParseTree.Nodes
import Mathlib.Data.List.Nodup

/-!
# The entities of the files

Every file declares the type of its entity, all of them in one package. What is checked before the
files are written is that their names are different, and the name of an entity is the name of its
file in camel case. So files can be written that declare one type twice: `logTables_shareEntity`
gives two tables with such files.

`written_entities` says when that happens: exactly when two names of files have one camel case form,
so only to names with the same letters, and never to plain names.
-/

namespace EntSchema.CommandLine

open Relational Storage

section Entities

variable {config : Config} {tables : List Table} {file : SchemaFile}

theorem entity_of_mem_generated (h : file ∈ generated config tables) :
    file.entity = Naming.upperCamel file.stem := by
  obtain ⟨table, htable, hfile⟩ := mem_generated_iff.1 h
  exact (Schema.names_of_fileOf hfile).2

/-- Names are different in camel case exactly when different names are. -/
theorem nodup_map_entity_iff
    (hstems : ((generated config tables).map (·.stem)).Nodup) :
    ((generated config tables).map (·.entity)).Nodup ↔
      ∀ file ∈ generated config tables, ∀ other ∈ generated config tables,
        file.stem ≠ other.stem →
          Naming.upperCamel file.stem ≠ Naming.upperCamel other.stem := by
  constructor
  · intro h file hfile other hother hne heq
    have hentities : file.entity = other.entity := by
      rw [entity_of_mem_generated hfile, entity_of_mem_generated hother, heq]
    exact hne (congrArg (·.stem) (List.inj_on_of_nodup_map h hfile hother hentities))
  · intro h
    apply List.Nodup.map_on _ hstems.of_map
    intro file hfile other hother hentities
    rw [entity_of_mem_generated hfile, entity_of_mem_generated hother] at hentities
    have hstem : file.stem = other.stem := by
      by_contra hne
      exact h file hfile other hother hne hentities
    exact List.inj_on_of_nodup_map hstems hfile hother hstem

/-- **When written files declare one entity twice.** Their names are different, and the entities are
so exactly when no two names have one camel case form. Names that have one form differ in separators
and in capitals only, and they are not both plain. -/
theorem written_entities {σ : Type} [FileSystem σ] {directory : String} {state after : σ}
    {paths : List String}
    (hwrite : (Output.writeFiles directory (generated config tables) :
      StateM σ (Except OutputError (List String))).run state = (.ok paths, after)) :
    ((generated config tables).map (·.stem)).Nodup ∧
      (((generated config tables).map (·.entity)).Nodup ↔
        ∀ file ∈ generated config tables, ∀ other ∈ generated config tables,
          file.stem ≠ other.stem →
            Naming.upperCamel file.stem ≠ Naming.upperCamel other.stem) ∧
      ∀ file ∈ generated config tables, ∀ other ∈ generated config tables,
        file.entity = other.entity →
          Naming.SameLetters file.stem other.stem ∧
          (Naming.IsPlainName file.stem → Naming.IsPlainName other.stem → file = other) := by
  have hstems : ((generated config tables).map (·.stem)).Nodup := by
    cases Output.writes_run hwrite with
    | files hnames => exact (Output.checkStems_eq_ok_iff_nodup.1 hnames).2
  refine ⟨hstems, nodup_map_entity_iff hstems, ?_⟩
  intro file hfile other hother hentities
  rw [entity_of_mem_generated hfile, entity_of_mem_generated hother] at hentities
  refine ⟨Naming.sameLetters_of_upperCamel_eq hentities, ?_⟩
  intro hplain hplain'
  have hstem : file.stem = other.stem := Naming.eq_of_upperCamel_eq hplain hplain' hentities
  exact List.inj_on_of_nodup_map hstems hfile hother hstem

end Entities

/-! ## Two files with one entity -/

/-- The statements for two tables whose names differ in a separator. -/
def logTree : Json :=
  ParseTree.scriptNode
    (["log2024", "log_2024"].map fun name =>
      ParseTree.tableNode name [ParseTree.columnNode "line" "text" []])

/-- The tables of `logTree`. -/
def logTables : List Table :=
  ["log2024", "log_2024"].map fun name => { name, columns := [{ name := "line", type := "text" }] }

/-- Settings with a builder for the type of the columns. -/
def logSettings : Config where
  builders := [("text", "field.String(\"%s\")")]

/-- A file of `logTables`. Both have the same entity. -/
def logFile (stem : String) : SchemaFile where
  stem := stem
  entity := "Log2024"
  fields := ["field.String(\"line\").\nNillable().\nOptional()"]

theorem generated_logTables :
    generated logSettings logTables = [logFile "log2024", logFile "log_2024"] := by
  decide +kernel

theorem run_logTables :
    ∃ after, (Output.writeFiles "ent/schema" (generated logSettings logTables) :
      StateM FileTree (Except OutputError (List String))).run {} =
        (.ok ["ent/schema/log2024.go", "ent/schema/log_2024.go"], after) := by
  rw [generated_logTables]
  have hresult : ((Output.writeFiles "ent/schema" [logFile "log2024", logFile "log_2024"] :
      StateM FileTree (Except OutputError (List String))).run {}).1 =
        .ok ["ent/schema/log2024.go", "ent/schema/log_2024.go"] := by
    decide +kernel
  exact exists_run_of_value hresult

/-- The files are written, and they declare one entity: their names have the same letters, and they
are not both plain. -/
theorem logTables_sameLetters :
    ∃ after, (Output.writeFiles "ent/schema" (generated logSettings logTables) :
        StateM FileTree (Except OutputError (List String))).run {} =
          (.ok ["ent/schema/log2024.go", "ent/schema/log_2024.go"], after) ∧
      ((generated logSettings logTables).map (·.stem)).Nodup ∧
      Naming.SameLetters "log2024" "log_2024" ∧
      ¬(Naming.IsPlainName "log2024" ∧ Naming.IsPlainName "log_2024") := by
  obtain ⟨after, hrun⟩ := run_logTables
  obtain ⟨hstems, -, hshared⟩ := written_entities hrun
  have hfirst : logFile "log2024" ∈ generated logSettings logTables := by
    rw [generated_logTables]
    exact List.mem_cons_self
  have hsecond : logFile "log_2024" ∈ generated logSettings logTables := by
    rw [generated_logTables]
    exact List.mem_cons_of_mem _ List.mem_cons_self
  obtain ⟨hletters, hplain⟩ := hshared _ hfirst _ hsecond rfl
  refine ⟨after, hrun, hstems, hletters, ?_⟩
  rintro ⟨h, h'⟩
  have hstem : "log2024" = "log_2024" := congrArg (·.stem) (hplain h h')
  exact absurd hstem (by decide)

/-- The script is accepted and its files are written, and both declare one entity. -/
theorem logTables_shareEntity :
    ParseTree.tablesOf logTree = .ok logTables ∧
      (∃ paths after, (Output.writeFiles "ent/schema" (generated logSettings logTables) :
        StateM FileTree (Except OutputError (List String))).run {} = (.ok paths, after)) ∧
      ¬((generated logSettings logTables).map (·.entity)).Nodup := by
  have hshared : ¬([logFile "log2024", logFile "log_2024"].map (·.entity)).Nodup := by decide
  refine ⟨by decide +kernel, ⟨_, run_logTables⟩, ?_⟩
  rw [generated_logTables]
  exact hshared

end EntSchema.CommandLine
