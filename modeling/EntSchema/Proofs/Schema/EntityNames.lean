import EntSchema.Proofs.Naming.RoundTrip
import EntSchema.Proofs.Schema.Files

/-!
# The entities of canonical names

A file takes its name from the singular of a table's name, and its entity is the camel case form of
that. So what is read back from an entity is the singular, and not the table's name: tables share an
entity exactly when their singulars are the same, as for `user_role` and `user_roles`.
-/

namespace EntSchema.Schema

open Relational Config Naming

/-- **Canonical names are read back from camel case**: different ones have different forms, and
tables whose singulars are canonical share an entity exactly when the singulars are the same. -/
theorem canonicalName_readBack {name : String} (hname : IsCanonicalName name) :
    snake (upperCamel name) = name ∧
      (∀ other, IsCanonicalName other → other ≠ name → upperCamel other ≠ upperCamel name) ∧
      ∀ config table file other otherFile,
        fileOf config table = .ok file → fileOf config other = .ok otherFile →
        singularize table.name = name → IsCanonicalName (singularize other.name) →
        (otherFile.entity = file.entity ↔ singularize other.name = name) := by
  refine ⟨snake_upperCamel_of_canonical hname, ?_, ?_⟩
  · intro other hother hne heq
    exact hne (eq_of_upperCamel_of_canonical hother hname heq)
  · rintro config table file other otherFile hfile hotherFile rfl hother
    obtain ⟨hstem, hentity⟩ := names_of_fileOf hfile
    obtain ⟨hotherStem, hotherEntity⟩ := names_of_fileOf hotherFile
    rw [hentity, hotherEntity, hstem, hotherStem]
    exact ⟨eq_of_upperCamel_of_canonical hother hname, congrArg upperCamel⟩

/-! ## Tables with a key and nothing else -/

/-- A table whose only column is an implicit key, and so is no field. -/
def keyTable (name : String) : Table where
  name := name
  columns := [{ name := "id", type := "int8", isPrimary := true, isNotNull := true }]

/-- A file that declares an entity without fields. -/
def bareFile (stem : String) : SchemaFile where
  stem := stem
  entity := upperCamel stem

@[simp] theorem keyTable_name (name : String) : (keyTable name).name = name := rfl

theorem fileOf_keyTable (name : String) :
    fileOf {} (keyTable name) = .ok (bareFile (singularize name)) := by
  refine fileOf_eq_ok.2 ⟨?_, rfl⟩
  intro column hcolumn
  obtain rfl := List.mem_singleton.1 hcolumn
  exact ⟨.skipped, rfl⟩

theorem isCanonicalName_of_words {name : String} (parts : List String)
    (h : AreCanonicalWords (parts.map (·.toList)))
    (hname : name.toList = ['_'].intercalate (parts.map (·.toList))) : IsCanonicalName name :=
  ⟨_, h, hname⟩

/-- Two names with acronyms, one of them with one at its end and the other in front. -/
theorem httpOrderIds_readBack :
    IsCanonicalName "http_order_id" ∧ upperCamel "http_order_id" = "HTTPOrderID" ∧
      snake (upperCamel "http_order_id") = "http_order_id" ∧
      fileOf {} (keyTable "http_order_ids") = .ok (bareFile "http_order_id") ∧
      fileOf {} (keyTable "api_keys") = .ok (bareFile "api_key") ∧
      ((bareFile "api_key").entity = (bareFile "http_order_id").entity ↔
        "api_key" = "http_order_id") := by
  have horder : IsCanonicalName "http_order_id" :=
    isCanonicalName_of_words ["http", "order", "id"] (by decide +kernel) (by decide)
  have hkey : IsCanonicalName "api_key" :=
    isCanonicalName_of_words ["api", "key"] (by decide +kernel) (by decide)
  have hsingular : singularize "http_order_ids" = "http_order_id" := by decide +kernel
  have hotherSingular : singularize "api_keys" = "api_key" := by decide +kernel
  have hfile := fileOf_keyTable "http_order_ids"
  have hotherFile := fileOf_keyTable "api_keys"
  obtain ⟨hread, -, hentities⟩ := canonicalName_readBack horder
  have hshared := hentities {} _ _ _ _ hfile hotherFile hsingular (hotherSingular ▸ hkey)
  rw [keyTable_name, hsingular, hotherSingular] at hshared
  rw [hsingular] at hfile
  rw [hotherSingular] at hotherFile
  exact ⟨horder, by decide +kernel, hread, hfile, hotherFile, hshared⟩

/-- Two tables with different canonical names, and one entity for both. -/
theorem userRoles_shareEntity :
    IsCanonicalName "user_role" ∧ IsCanonicalName "user_roles" ∧
      (keyTable "user_role").name ≠ (keyTable "user_roles").name ∧
      fileOf {} (keyTable "user_role") = .ok (bareFile "user_role") ∧
      fileOf {} (keyTable "user_roles") = .ok (bareFile "user_role") ∧
      (bareFile "user_role").entity = "UserRole" := by
  have hsingular : singularize "user_role" = "user_role" := by decide +kernel
  have hsingulars : singularize "user_roles" = "user_role" := by decide +kernel
  refine ⟨?_, ?_, by decide, ?_, ?_, by decide +kernel⟩
  · exact isCanonicalName_of_words ["user", "role"] (by decide +kernel) (by decide)
  · exact isCanonicalName_of_words ["user", "roles"] (by decide +kernel) (by decide)
  · rw [fileOf_keyTable, hsingular]
  · rw [fileOf_keyTable, hsingulars]

end EntSchema.Schema
