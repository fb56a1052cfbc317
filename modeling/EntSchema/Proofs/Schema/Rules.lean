import EntSchema.Schema.Field

/-!
# What the rules make of a column

A column is left out, replaced by an override, or built from the settings for its type, and the
last of these fails when there is no builder or when its constraints do not agree. `Ruled` lists
these ways with what each of them takes for granted, and `ruled_fieldOf` says that every column goes
one of them. What holds of the rules is shown from this list.
-/

namespace EntSchema.Schema

open Relational Config

/-- The imports that come with a builder. -/
def builderImports (config : Config) (builder : String) : List String :=
  match config.refinements.lookup builder with
  | some refinement => refinement.imports
  | none => []

/-- A column that is neither left out nor replaced, so its type decides. -/
structure GoesByType (config : Config) (column : Column) : Prop where
  notKey : isImplicitKey column = false
  noOverride : firstOverride? config.overrides column = none

/-- What the rules make of a column, case by case. -/
inductive Ruled (config : Config) (table : String) (column : Column) : FieldResult → Prop
  | skipped (hkey : isImplicitKey column = true) :
    Ruled config table column { outcome := .ok .skipped }
  | overridden {rule : Override} (hkey : isImplicitKey column = false)
      (hrule : firstOverride? config.overrides column = some rule) :
    Ruled config table column
      { outcome := .ok (.declared [.builder (Text.fill rule.template column.name)])
        imports := rule.imports }
  | unmapped (htype : GoesByType config column)
      (hbuilder : config.builders.lookup column.type = none) :
    Ruled config table column
      { outcome := .error (.missingTypeMapping table column.name column.type) }
  | conflicting {builder : String} (htype : GoesByType config column)
      (hbuilder : config.builders.lookup column.type = some builder)
      (hdefault : column.default.isSome = true) (hunique : column.isUnique = true) :
    Ruled config table column
      { outcome := .error (.uniqueWithDefault table column.name)
        imports := builderImports config builder }
  | mapped {builder : String} (htype : GoesByType config column)
      (hbuilder : config.builders.lookup column.type = some builder)
      (hunique : column.isUnique = true → column.default = none) :
    Ruled config table column
      { outcome := .ok (.declared (columnLinks config.switches column builder
          (config.refinements.lookup builder)))
        imports := builderImports config builder ++ defaultImports column }

variable {config : Config} {table : String} {column : Column}

theorem isImplicitKey_iff :
    isImplicitKey column = true ↔
      column.name = "id" ∧ column.isPrimary = true ∧ column.type ≠ "uuid" := by
  rw [isImplicitKey, Bool.and_eq_true, Bool.and_eq_true, and_assoc, beq_iff_eq, bne_iff_ne]
  rfl

theorem declaredDefault?_eq_some {value : DefaultValue} :
    declaredDefault? column = some value ↔
      column.default = some value ∧ column.isPrimary = false := by
  rw [declaredDefault?, Option.filter_eq_some_iff, Bool.not_eq_true']

/-- **Every column goes one of the ways listed.** -/
theorem ruled_fieldOf (config : Config) (table : String) (column : Column) :
    Ruled config table column (fieldOf config table column) := by
  rw [fieldOf]
  split
  · rename_i hkey
    exact .skipped hkey
  · rename_i hkey
    rw [Bool.not_eq_true] at hkey
    split
    · rename_i rule hrule
      exact .overridden hkey hrule
    · rename_i hrule
      split
      · rename_i builder hbuilder
        rw [mappedField]
        split
        · rename_i hconflict
          obtain ⟨hdefault, hunique⟩ := Bool.and_eq_true_iff.1 hconflict
          exact .conflicting ⟨hkey, hrule⟩ hbuilder hdefault hunique
        · rename_i hagree
          refine .mapped ⟨hkey, hrule⟩ hbuilder ?_
          intro hunique
          rw [hunique, Bool.and_true, Bool.not_eq_true, Option.isSome_eq_false_iff,
            Option.isNone_iff_eq_none] at hagree
          exact hagree
      · rename_i hbuilder
        exact .unmapped ⟨hkey, hrule⟩ hbuilder

/-- Each way leads to one result, so a column has no other one. -/
theorem Ruled.fieldOf_eq {result : FieldResult} (h : Ruled config table column result) :
    fieldOf config table column = result := by
  rw [fieldOf]
  cases h with
  | skipped hkey => rw [if_pos hkey]
  | overridden hkey hrule => rw [if_neg (by rw [hkey]; decide), hrule]
  | unmapped htype hbuilder =>
    rw [if_neg (by rw [htype.notKey]; decide), htype.noOverride, hbuilder]
  | conflicting htype hbuilder hdefault hunique =>
    rw [if_neg (by rw [htype.notKey]; decide), htype.noOverride, hbuilder]
    show mappedField config table column _ = _
    rw [mappedField, hdefault, hunique]
    rfl
  | mapped htype hbuilder hunique =>
    have hagree : ¬(column.default.isSome && column.isUnique) = true := by
      intro hconflict
      obtain ⟨hdefault, hmarked⟩ := Bool.and_eq_true_iff.1 hconflict
      rw [hunique hmarked] at hdefault
      cases hdefault
    rw [if_neg (by rw [htype.notKey]; decide), htype.noOverride, hbuilder]
    show mappedField config table column _ = _
    rw [mappedField, if_neg hagree]
    rfl

/-- A column is left out exactly when it is the implicit key. -/
theorem fieldOf_eq_skipped :
    (fieldOf config table column).outcome = .ok .skipped ↔ isImplicitKey column = true := by
  constructor
  · intro h
    have hruled := ruled_fieldOf config table column
    generalize fieldOf config table column = result at h hruled
    cases hruled with
    | skipped hkey => exact hkey
    | overridden => cases h
    | unmapped => cases h
    | conflicting => cases h
    | mapped => cases h
  · intro hkey
    rw [(Ruled.skipped hkey : Ruled config table column _).fieldOf_eq]

/-- **A declaration comes from an override or from a builder.** -/
theorem links_of_declared {links : List Link}
    (h : (fieldOf config table column).outcome = .ok (.declared links)) :
    (∃ rule, firstOverride? config.overrides column = some rule ∧
      links = [.builder (Text.fill rule.template column.name)]) ∨
      ∃ builder, firstOverride? config.overrides column = none ∧
        (column.isUnique = true → column.default = none) ∧
        links = columnLinks config.switches column builder (config.refinements.lookup builder) := by
  have hruled := ruled_fieldOf config table column
  generalize fieldOf config table column = result at h hruled
  cases hruled with
  | skipped hkey => cases h
  | overridden hkey hrule =>
    cases h
    exact .inl ⟨_, hrule, rfl⟩
  | unmapped htype hbuilder => cases h
  | conflicting htype hbuilder hdefault hunique => cases h
  | mapped htype hbuilder hunique =>
    cases h
    exact .inr ⟨_, htype.noOverride, hunique, rfl⟩

end EntSchema.Schema
