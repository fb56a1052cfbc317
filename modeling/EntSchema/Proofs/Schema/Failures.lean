import EntSchema.Proofs.Config.Overrides
import EntSchema.Proofs.Schema.Files
import EntSchema.Proofs.Schema.Rules

/-!
# Why a table has no file

Two things are wrong with columns: a type that no builder is configured for, and a default value
beside a unique constraint. Neither is asked of the implicit key or of a column with an override, so
an override rescues a column from both (`Unshielded`), and the second is only asked of a column whose
type has a builder.

`Blocked` says this of a column without following the rules. A table has a file exactly when none of
its columns is blocked, its first blocked column says why it has none, and no other table has a say
in that (`fileOf_fails_as_blocked`).
-/

namespace EntSchema.Schema

open Relational Config

/-- A column that is neither left out nor matched by an override. -/
structure Unshielded (config : Config) (column : Column) : Prop where
  notKey : ¬(column.name = "id" ∧ column.isPrimary = true ∧ column.type ≠ "uuid")
  unmatched : ∀ rule ∈ config.overrides, ∃ matcher ∈ rule.matchers, matcher.holds column = false

/-- A type has a builder. -/
def HasBuilder (config : Config) (type : String) : Prop :=
  type ∈ config.builders.map (·.1)

instance (config : Config) (type : String) : Decidable (HasBuilder config type) :=
  inferInstanceAs (Decidable (type ∈ config.builders.map (·.1)))

/-- Why a column stands in the way of its table. -/
inductive Blocked (config : Config) (table : String) (column : Column) : FieldError → Prop
  | mapping (h : Unshielded config column) (hbuilder : ¬HasBuilder config column.type) :
    Blocked config table column (.missingTypeMapping table column.name column.type)
  | uniqueness (h : Unshielded config column) (hbuilder : HasBuilder config column.type)
      (hdefault : column.default ≠ none) (hunique : column.isUnique = true) :
    Blocked config table column (.uniqueWithDefault table column.name)

variable {config : Config} {table : String} {column : Column} {e : FieldError}

/-! ## One column -/

theorem goesByType_iff : GoesByType config column ↔ Unshielded config column := by
  have hkey : isImplicitKey column = false ↔
      ¬(column.name = "id" ∧ column.isPrimary = true ∧ column.type ≠ "uuid") := by
    rw [← isImplicitKey_iff, Bool.not_eq_true]
  have hrule : firstOverride? config.overrides column = none ↔
      ∀ rule ∈ config.overrides, ∃ matcher ∈ rule.matchers, matcher.holds column = false := by
    simp only [firstOverride?_eq_none, Override.holds_eq_false]
  constructor
  · intro h
    exact ⟨hkey.1 h.notKey, hrule.1 h.noOverride⟩
  · intro h
    exact ⟨hkey.2 h.notKey, hrule.2 h.unmatched⟩

theorem hasBuilder_iff {type : String} :
    HasBuilder config type ↔ ∃ builder, config.builders.lookup type = some builder := by
  rw [← Option.isSome_iff_exists, List.lookup_isSome_iff, HasBuilder, List.mem_map]
  refine exists_congr fun entry => and_congr_right fun _ => ?_
  rw [beq_iff_eq, eq_comm]

/-- **A column fails as it is blocked.** -/
theorem fieldOf_eq_error :
    (fieldOf config table column).outcome = .error e ↔ Blocked config table column e := by
  constructor
  · intro h
    have hruled := ruled_fieldOf config table column
    generalize fieldOf config table column = result at h hruled
    cases hruled with
    | skipped => cases h
    | overridden => cases h
    | unmapped htype hbuilder =>
      cases h
      refine .mapping (goesByType_iff.1 htype) fun hfound => ?_
      obtain ⟨builder, hlookup⟩ := hasBuilder_iff.1 hfound
      rw [hbuilder] at hlookup
      cases hlookup
    | conflicting htype hbuilder hdefault hunique =>
      cases h
      exact .uniqueness (goesByType_iff.1 htype) (hasBuilder_iff.2 ⟨_, hbuilder⟩)
        (Option.isSome_iff_ne_none.1 hdefault) hunique
    | mapped => cases h
  · intro h
    cases h with
    | mapping hcolumn hbuilder =>
      have hnone : config.builders.lookup column.type = none :=
        Option.eq_none_iff_forall_ne_some.2 fun builder hlookup =>
          hbuilder (hasBuilder_iff.2 ⟨builder, hlookup⟩)
      rw [(Ruled.unmapped (goesByType_iff.2 hcolumn) hnone : Ruled config table _ _).fieldOf_eq]
    | uniqueness hcolumn hbuilder hdefault hunique =>
      obtain ⟨builder, hlookup⟩ := hasBuilder_iff.1 hbuilder
      rw [(Ruled.conflicting (goesByType_iff.2 hcolumn) hlookup
        (Option.isSome_iff_ne_none.2 hdefault) hunique : Ruled config table _ _).fieldOf_eq]

theorem exists_outcome_iff :
    (∃ outcome, (fieldOf config table column).outcome = .ok outcome) ↔
      ∀ e, ¬Blocked config table column e := by
  rw [Fold.exists_ok_iff]
  exact forall_congr' fun e => not_congr fieldOf_eq_error

/-! ## Tables -/

/-- **A table fails exactly as its first blocked column says.** It has a file when no column is
blocked. In a list of tables each of them has the result that it has on its own, whatever stands in
front of it or behind it. -/
theorem fileOf_fails_as_blocked (config : Config) (table : Table) :
    ((∃ file, fileOf config table = .ok file) ↔
        ∀ column ∈ table.columns, ∀ e, ¬Blocked config table.name column e) ∧
      (∀ e, fileOf config table = .error e ↔
        ∃ before column after, table.columns = before ++ column :: after ∧
          (∀ earlier ∈ before, ∀ e, ¬Blocked config table.name earlier e) ∧
          Blocked config table.name column e) ∧
      (∀ tables, (filesOf config tables).length = tables.length ∧
        ∀ i : Nat, (filesOf config tables)[i]? = tables[i]?.map (fileOf config)) ∧
      ∀ before after, (filesOf config (before ++ table :: after))[before.length]? =
        some (fileOf config table) := by
  refine ⟨?_, ?_, ?_, ?_⟩
  · simp only [fileOf_eq_ok, AllSettled, exists_outcome_iff, exists_and_left, exists_eq, and_true]
  · intro e
    simp only [fileOf_eq_error, exists_outcome_iff, fieldOf_eq_error]
  · intro tables
    exact ⟨List.length_map _, fun i => List.getElem?_map⟩
  · intro before after
    rw [filesOf, List.getElem?_map, List.getElem?_append_right (Nat.le_refl _), Nat.sub_self]
    rfl

/-! ## A table of profiles -/

/-- A column that is unique and has a default value. -/
def handleColumn : Column where
  name := "handle"
  type := "text"
  isNotNull := true
  isUnique := true
  default := some (.literal "String" "\"anon\"")

/-- A table with an implicit key, a column that an override rescues, and two blocked columns. -/
def profileTable : Table where
  name := "profiles"
  columns :=
    [ { name := "id", type := "serial", isPrimary := true, isNotNull := true, isUnique := true
        default := some (.call "nextval") }
    , { name := "payload", type := "jsonb", isUnique := true
        default := some (.literal "String" "\"\x7b\x7d\"") }
    , handleColumn
    , { name := "place", type := "point", isNotNull := true } ]

/-- The first blocked column has the say, behind a table that has a file. -/
theorem profileTable_blocked :
    fileOf eventSettings profileTable = .error (.uniqueWithDefault "profiles" "handle") ∧
      (filesOf eventSettings [eventTable, profileTable])[1]? =
        some (.error (.uniqueWithDefault "profiles" "handle")) := by
  obtain ⟨-, hfails, -, halone⟩ := fileOf_fails_as_blocked eventSettings profileTable
  have hbefore : ∀ earlier ∈ profileTable.columns.take 2, ∀ e,
      ¬Blocked eventSettings profileTable.name earlier e := by
    intro earlier hearlier
    rw [← exists_outcome_iff]
    revert earlier
    simp only [profileTable, List.take, List.forall_mem_cons]
    exact ⟨⟨_, rfl⟩, ⟨_, rfl⟩, nofun⟩
  have hblocked : Blocked eventSettings profileTable.name handleColumn
      (.uniqueWithDefault "profiles" "handle") :=
    .uniqueness ⟨by decide, by decide⟩ (by decide) (by decide) rfl
  have hfile := (hfails _).2
    ⟨profileTable.columns.take 2, handleColumn, profileTable.columns.drop 3, rfl, hbefore, hblocked⟩
  refine ⟨hfile, ?_⟩
  rw [← hfile]
  exact halone [eventTable] []

end EntSchema.Schema
