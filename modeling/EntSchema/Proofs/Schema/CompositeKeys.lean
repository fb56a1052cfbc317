import EntSchema.Proofs.ParseTree.Nodes
import EntSchema.Proofs.Schema.Files
import EntSchema.Proofs.Schema.Rules

/-!
# The columns of a composite key

A table of links between other tables has a key of several columns that all are foreign keys. The
annotation for such a key names these columns, and it is made from the table alone. Whether a column
has a field is settled elsewhere, by the rules for the column, which leave out a primary key with the
usual name.

So nearly all columns of a composite key are fields. `compositeKey_fields` says of each of them what
it adds to the fields of the file: its own declaration in its own place, or nothing when it is the
implicit key. `grantTable_keyLeftOut` is a script where the second happens.
-/

namespace EntSchema.Schema

open Relational Config

/-- A column of a composite key. -/
structure IsLink (column : Column) : Prop where
  primary : column.isPrimary = true
  foreign : column.foreignKey ≠ none

/-- The declarations of some columns, in their order. -/
def declarationsOf (config : Config) (table : String) (columns : List Column) : List String :=
  columns.filterMap fun column => (fieldOf config table column).text?

/-- What a column between others adds to the fields of a file. -/
inductive Adds (config : Config) (table : String) (before : List Column) (column : Column)
    (after : List Column) : List String → Prop
  /-- The implicit key adds nothing. -/
  | nothing (hname : column.name = "id") (htype : column.type ≠ "uuid")
      (hskipped : (fieldOf config table column).outcome = .ok .skipped) :
    Adds config table before column after
      (declarationsOf config table before ++ declarationsOf config table after)
  /-- Any other column adds its declaration. -/
  | declaration {links : List Link} (hother : column.name = "id" → column.type = "uuid")
      (hdeclared : (fieldOf config table column).outcome = .ok (.declared links)) :
    Adds config table before column after
      (declarationsOf config table before ++ chainText links :: declarationsOf config table after)

section Keys

variable {config : Config} {table : Table} {column : Column} {before after : List Column}
  {file : SchemaFile}

theorem mem_linkColumns {name : String} :
    name ∈ linkColumns table ↔ ∃ column ∈ table.columns, IsLink column ∧ column.name = name := by
  rw [linkColumns, List.mem_map]
  refine exists_congr fun column => ?_
  rw [List.mem_filter, Bool.and_eq_true, Option.isSome_iff_ne_none, and_assoc]
  exact and_congr_right fun _ => and_congr_left fun _ => ⟨fun h => ⟨h.1, h.2⟩, fun h => ⟨h.1, h.2⟩⟩

/-- The annotations are the key, if there are any. -/
theorem annotations_of_ne_nil (h : annotationsOf table ≠ []) :
    2 ≤ (linkColumns table).length ∧
      annotationsOf table = ["field.ID(" ++ quotedList (linkColumns table) ++ ")"] := by
  rw [annotationsOf] at h ⊢
  split
  · rename_i hseveral
    exact ⟨hseveral, rfl⟩
  · rename_i hfew
    exact absurd (if_neg hfew) h

theorem declarationsOf_split (config : Config) (table : String) (before after : List Column)
    (column : Column) :
    declarationsOf config table (before ++ column :: after) =
      declarationsOf config table before ++
        ((fieldOf config table column).text?.toList ++ declarationsOf config table after) := by
  rw [declarationsOf, List.filterMap_append, List.filterMap_cons]
  cases (fieldOf config table column).text? <;> rfl

/-- **A column with an outcome adds its declaration**, unless it is the implicit key. -/
theorem adds_of_link (hlink : IsLink column)
    (hsettled : ∃ outcome, (fieldOf config table.name column).outcome = .ok outcome) :
    Adds config table.name before column after
      (declarationsOf config table.name (before ++ column :: after)) := by
  obtain ⟨outcome, houtcome⟩ := hsettled
  rw [declarationsOf_split, FieldResult.text?, houtcome]
  cases outcome with
  | skipped =>
    obtain ⟨hname, -, htype⟩ := isImplicitKey_iff.1 (fieldOf_eq_skipped.1 houtcome)
    exact .nothing hname htype houtcome
  | declared links =>
    refine .declaration ?_ houtcome
    intro hname
    by_contra htype
    have hskipped : (fieldOf config table.name column).outcome = .ok .skipped :=
      fieldOf_eq_skipped.2 (isImplicitKey_iff.2 ⟨hname, hlink.primary, htype⟩)
    rw [houtcome] at hskipped
    cases hskipped

/-- **The columns of a composite key are fields of the file, except for an implicit key.** When a
file has annotations, they are one that names the columns of the key, of which there are at least
two. Each of these columns adds its own declaration to the fields, in its own place, or nothing if it
is left out for its name and type. -/
theorem compositeKey_fields (hfile : fileOf config table = .ok file) (hkey : file.annotations ≠ []) :
    2 ≤ (linkColumns table).length ∧
      file.annotations = ["field.ID(" ++ quotedList (linkColumns table) ++ ")"] ∧
      (∀ name, name ∈ linkColumns table ↔
        ∃ column ∈ table.columns, IsLink column ∧ column.name = name) ∧
      ∀ before column after, table.columns = before ++ column :: after → IsLink column →
        Adds config table.name before column after file.fields := by
  obtain ⟨hall, rfl⟩ := fileOf_eq_ok.1 hfile
  obtain ⟨hseveral, hannotation⟩ := annotations_of_ne_nil hkey
  refine ⟨hseveral, hannotation, fun _ => mem_linkColumns, ?_⟩
  intro before column after hsplit hlink
  have hmem : column ∈ table.columns := by
    rw [hsplit]
    exact List.mem_append_right _ List.mem_cons_self
  have hfields : (contentOf config table).fields =
      declarationsOf config table.name (before ++ column :: after) := by
    rw [← hsplit]
    rfl
  rw [hfields]
  exact adds_of_link hlink (hall column hmem)

end Keys

/-! ## A table of grants -/

open ParseTree in
/-- A script for a table with a composite key, of which one column is called `id`. -/
def grantTree : Json :=
  let references table := constraintNode 8 [("pktable", relationNode table)]
  scriptNode [tableNode "grants"
    [ columnNode "id" "int8" [references "users"]
    , columnNode "role" "int8" [references "roles"]
    , constraintNode 5 [("keys", .array [stringNode "id", stringNode "role"])] ]]

/-- The column of `grantTable` for roles. -/
def roleColumn : Column where
  name := "role"
  type := "int8"
  isPrimary := true
  isNotNull := true
  foreignKey := some { table := "roles", column := "id" }

/-- The column of `grantTable` for users. -/
def userColumn : Column where
  name := "id"
  type := "int8"
  isPrimary := true
  isNotNull := true
  foreignKey := some { table := "users", column := "id" }

/-- The table of `grantTree`. -/
def grantTable : Table where
  name := "grants"
  columns := [userColumn, roleColumn]

/-- Settings with a builder for the type of the columns. -/
def grantSettings : Config where
  builders := [("int8", "field.Int64(\"%s\")")]

/-- The content of the schema file of `grantTable`. -/
def grantFile : SchemaFile where
  stem := "grant"
  entity := "Grant"
  annotations := ["field.ID(\"id\", \"role\")"]
  fields := ["field.Int64(\"role\")"]

theorem fileOf_grantTable : fileOf grantSettings grantTable = .ok grantFile := by
  decide +kernel

/-- The roles are a field, and the users are none. -/
theorem grantTable_fields :
    linkColumns grantTable = ["id", "role"] ∧
      Adds grantSettings "grants" [userColumn] roleColumn [] ["field.Int64(\"role\")"] ∧
      Adds grantSettings "grants" [] userColumn [roleColumn] ["field.Int64(\"role\")"] := by
  obtain ⟨-, -, -, hadds⟩ := compositeKey_fields fileOf_grantTable (List.cons_ne_nil _ _)
  refine ⟨by decide, ?_, ?_⟩
  · exact hadds [userColumn] roleColumn [] rfl ⟨rfl, nofun⟩
  · exact hadds [] userColumn [roleColumn] rfl ⟨rfl, nofun⟩

/-- The script is accepted and the table has a file, whose annotation names a column without a
declaration. -/
theorem grantTable_keyLeftOut :
    ParseTree.tablesOf grantTree = .ok [grantTable] ∧
      fileOf grantSettings grantTable = .ok grantFile ∧
      grantFile.annotations = ["field.ID(" ++ quotedList ["id", "role"] ++ ")"] ∧
      grantFile.fields = ["field.Int64(\"role\")"] ∧
      ∃ column ∈ grantTable.columns, IsLink column ∧ column.name = "id" ∧
        ¬∃ links, (fieldOf grantSettings grantTable.name column).outcome =
          .ok (.declared links) := by
  have hskipped : (fieldOf grantSettings grantTable.name userColumn).outcome = .ok .skipped :=
    fieldOf_eq_skipped.2 rfl
  refine ⟨by decide +kernel, fileOf_grantTable, by decide, rfl, userColumn, List.mem_cons_self,
    ⟨rfl, nofun⟩, rfl, ?_⟩
  rintro ⟨links, hdeclared⟩
  rw [hskipped] at hdeclared
  cases hdeclared

end EntSchema.Schema
