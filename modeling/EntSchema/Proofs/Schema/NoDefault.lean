import EntSchema.Proofs.Schema.Modifiers

/-!
# The switch for default values

A switch takes the default values out of the declarations. What it leaves alone is more than what it
takes away: the errors, the imports, the columns that mention no default value, and in those that do
every other link. The annotation for the database stays, and so does `Optional()`, although both are
there because of the default value.

The rules look at the switch for one link only, so two runs go the same way for every column
(`compared_fieldOf`), and with that for the table (`fileOf_setNoDefault`).
-/

namespace EntSchema.Schema

open Relational Config

/-- Settings with the switch for default values as given, and all else as it is. -/
def setNoDefault (config : Config) (noDefault : Bool) : Config :=
  { config with switches := { config.switches with noDefault } }

/-- A column whose declaration mentions its default value. -/
structure MentionsDefault (config : Config) (column : Column) (value : DefaultValue) : Prop where
  noOverride : firstOverride? config.overrides column = none
  notPrimary : column.isPrimary = false
  default : column.default = some value

/-- The links of a column in two runs, of which the second one declares no default values. -/
inductive Silenced (config : Config) (column : Column) : List Link → List Link → Prop
  /-- Where no default value is mentioned, both runs agree. -/
  | same {links : List Link} (hnone : ∀ value, ¬MentionsDefault config column value) :
    Silenced config column links links
  /-- Otherwise the filled-in template is taken out of its place, and nothing else. -/
  | erased {value : DefaultValue} {builder : String} {before after : List Link}
      (hmentions : MentionsDefault config column value)
      (hbuilder : config.builders.lookup column.type = some builder)
      (honly : ∀ text, .default text ∉ before ++ after)
      (hoptional : ∃ link ∈ before, link.text = "Optional()")
      (hraw : ∀ sql, value.rawSql? = some sql → after.head? = some (.rawDefault sql)) :
    Silenced config column
      (before ++ .default (Text.fill (defaultTemplate (config.refinements.lookup builder))
        value.literalText) :: after)
      (before ++ after)

/-! ## One column -/

section Column

variable {config : Config} {table builder template : String} {column : Column}
  {refinement : Option Refinement} {before : List Link} {value : DefaultValue}

theorem declaredDefault?_eq_none (hrule : firstOverride? config.overrides column = none) :
    declaredDefault? column = none ↔ ∀ value, ¬MentionsDefault config column value := by
  rw [Option.eq_none_iff_forall_ne_some]
  refine forall_congr' fun value => not_congr ?_
  rw [declaredDefault?_eq_some]
  exact ⟨fun h => ⟨hrule, h.2, h.1⟩, fun h => ⟨h.default, h.notPrimary⟩⟩

/-- A field with a default value is optional by then. -/
theorem exists_optional (before : List Link) :
    ∃ link ∈ before ++ (if before.any (·.text == Link.optional.text) then [] else [.optional]),
      link.text = "Optional()" := by
  split
  · rename_i hany
    obtain ⟨link, hlink, htext⟩ := List.any_eq_true.1 hany
    exact ⟨link, List.mem_append_left _ hlink, eq_of_beq htext⟩
  · exact ⟨.optional, List.mem_append_right _ List.mem_cons_self, rfl⟩

/-- What stands in front of a default value is no default value. -/
theorem default_not_mem_front (text : String) :
    .default text ∉ builderLinks column builder refinement ++ nullLinks column := by
  obtain ⟨builderText, goType, schemaType, hlinks⟩ := exists_builderLinks column builder refinement
  have hnull : .default text ∉ nullLinks column := by
    rw [nullLinks]
    split <;> simp
  rw [hlinks, List.mem_append, or_iff_left hnull]
  cases goType <;> cases schemaType <;> simp

/-- A declaration that mentions a default value: whatever the switch says, the same links stand in
front of the template and behind it, and none of them is a template for a default value. -/
theorem exists_columnLinks (hdeclared : declaredDefault? column = some value) :
    ∃ before after,
      (∀ noDefault, columnLinks (setNoDefault config noDefault).switches column builder refinement =
        before ++ ((if noDefault then [] else
          [.default (Text.fill (defaultTemplate refinement) value.literalText)]) ++ after)) ∧
      (∀ text, .default text ∉ before ++ after) ∧
      (∃ link ∈ before, link.text = "Optional()") ∧
      ∀ sql, value.rawSql? = some sql → after.head? = some (.rawDefault sql) := by
  have hfront : ∀ text, .default text ∉ builderLinks column builder refinement ++ nullLinks column :=
    default_not_mem_front
  refine ⟨_, (value.rawSql?.map Link.rawDefault).toList ++ closingLinks config.switches column,
    ?_, ?_, exists_optional (builderLinks column builder refinement ++ nullLinks column), ?_⟩
  · intro noDefault
    rw [columnLinks, hdeclared]
    simp only [defaultLinks, List.append_assoc]
    rfl
  · intro text hmem
    have hoptional : .default text ∉
        if (builderLinks column builder refinement ++ nullLinks column).any
          (·.text == Link.optional.text) then [] else [Link.optional] := by
      split <;> simp
    have hraw : .default text ∉ (value.rawSql?.map Link.rawDefault).toList := by
      cases value.rawSql? <;> simp
    have hclosing : .default text ∉ closingLinks config.switches column := by
      rw [mem_closingLinks]
      simp
    rcases List.mem_append.1 hmem with hbefore | hafter
    · rcases List.mem_append.1 hbefore with hlink | hlink
      · exact hfront text hlink
      · exact hoptional hlink
    · rcases List.mem_append.1 hafter with hlink | hlink
      · exact hraw hlink
      · exact hclosing hlink
  · intro sql hsql
    rw [hsql]
    rfl

/-- **The switch takes out the link for the default value, and nothing else.** -/
theorem silenced_columnLinks (hrule : firstOverride? config.overrides column = none)
    (hbuilder : config.builders.lookup column.type = some builder) :
    Silenced config column
      (columnLinks (setNoDefault config false).switches column builder
        (config.refinements.lookup builder))
      (columnLinks (setNoDefault config true).switches column builder
        (config.refinements.lookup builder)) := by
  cases hdeclared : declaredDefault? column with
  | none =>
    have hsame : columnLinks (setNoDefault config false).switches column builder
          (config.refinements.lookup builder) =
        columnLinks (setNoDefault config true).switches column builder
          (config.refinements.lookup builder) := by
      rw [columnLinks, columnLinks, hdeclared]
      rfl
    rw [hsame]
    exact .same ((declaredDefault?_eq_none hrule).1 hdeclared)
  | some value =>
    obtain ⟨hdefault, hprimary⟩ := declaredDefault?_eq_some.1 hdeclared
    obtain ⟨before, after, hlinks, honly, hoptional, hraw⟩ := exists_columnLinks hdeclared
    rw [hlinks false, hlinks true]
    exact .erased ⟨hrule, hprimary, hdefault⟩ hbuilder honly hoptional hraw

/-- What two runs make of a column, of which the second one declares no default values. -/
inductive Compared (config : Config) (column : Column) : FieldResult → FieldResult → Prop
  | skipped {imports : List String} (hkey : isImplicitKey column = true) :
    Compared config column { outcome := .ok .skipped, imports } { outcome := .ok .skipped, imports }
  | failed {e : FieldError} {imports : List String} :
    Compared config column { outcome := .error e, imports } { outcome := .error e, imports }
  | declared {spoken silent : List Link} {imports : List String}
      (hkey : isImplicitKey column = false) (hsilenced : Silenced config column spoken silent) :
    Compared config column { outcome := .ok (.declared spoken), imports }
      { outcome := .ok (.declared silent), imports }

section Compared

variable {config : Config} {column : Column} {first second : FieldResult}

theorem Compared.imports_eq (h : Compared config column first second) :
    second.imports = first.imports := by
  cases h <;> rfl

theorem Compared.error_iff (h : Compared config column first second) {e : FieldError} :
    second.outcome = .error e ↔ first.outcome = .error e := by
  cases h <;> simp

theorem Compared.settled_iff (h : Compared config column first second) :
    (∃ outcome, second.outcome = .ok outcome) ↔ ∃ outcome, first.outcome = .ok outcome := by
  cases h <;> simp

end Compared

theorem GoesByType.switch {switched : Bool}
    (h : GoesByType (setNoDefault config switched) column) (noDefault : Bool) :
    GoesByType (setNoDefault config noDefault) column :=
  ⟨h.notKey, h.noOverride⟩

/-- **Both runs go the same way for a column.** -/
theorem compared_fieldOf (config : Config) (table : String) (column : Column) :
    Compared config column (fieldOf (setNoDefault config false) table column)
      (fieldOf (setNoDefault config true) table column) := by
  have hruled := ruled_fieldOf (setNoDefault config false) table column
  generalize fieldOf (setNoDefault config false) table column = spoken at hruled
  cases hruled with
  | skipped hkey =>
    rw [(Ruled.skipped hkey : Ruled (setNoDefault config true) _ _ _).fieldOf_eq]
    exact .skipped hkey
  | overridden hkey hrule =>
    rw [(Ruled.overridden hkey hrule : Ruled (setNoDefault config true) _ _ _).fieldOf_eq]
    refine .declared hkey (.same ?_)
    intro value hmentions
    exact absurd (hmentions.noOverride.symm.trans hrule) (by simp)
  | unmapped htype hbuilder =>
    rw [(Ruled.unmapped (htype.switch true) hbuilder : Ruled _ table _ _).fieldOf_eq]
    exact .failed
  | conflicting htype hbuilder hdefault hunique =>
    rw [(Ruled.conflicting (htype.switch true) hbuilder hdefault hunique :
      Ruled _ table _ _).fieldOf_eq]
    exact .failed
  | mapped htype hbuilder hunique =>
    rw [(Ruled.mapped (htype.switch true) hbuilder hunique : Ruled _ table _ _).fieldOf_eq]
    exact .declared htype.notKey (silenced_columnLinks htype.noOverride hbuilder)

end Column

/-! ## A whole table -/

/-- A column with its links in two runs. -/
structure LinkPair where
  column : Column
  spoken : List Link
  silent : List Link

/-- The links are those that the rules give the column, without default values in the second run. -/
structure LinkPair.Ruled (config : Config) (table : String) (pair : LinkPair) : Prop where
  spoken : (fieldOf (setNoDefault config false) table pair.column).outcome =
    .ok (.declared pair.spoken)
  silent : (fieldOf (setNoDefault config true) table pair.column).outcome =
    .ok (.declared pair.silent)
  silenced : Silenced config pair.column pair.spoken pair.silent

/-- Two files of a table, of which the second one was made without default values. -/
structure DifferByDefaults (config : Config) (table : Table) (spoken silent : SchemaFile) :
    Prop where
  stem : silent.stem = spoken.stem
  entity : silent.entity = spoken.entity
  imports : silent.imports = spoken.imports
  annotations : silent.annotations = spoken.annotations
  indexes : silent.indexes = spoken.indexes
  length : silent.fields.length = spoken.fields.length
  fields : ∃ pairs : List LinkPair,
    pairs.map (·.column) = table.columns.filter (!isImplicitKey ·) ∧
      spoken.fields = pairs.map (chainText ·.spoken) ∧
      silent.fields = pairs.map (chainText ·.silent) ∧
      ∀ pair ∈ pairs, pair.Ruled config table.name

section Table

variable {config : Config} {table : Table} {column : Column}

/-- The declarations of some columns, side by side. -/
theorem exists_pairs {table : String} {columns : List Column}
    (h : ∀ column ∈ columns,
      ∃ outcome, (fieldOf (setNoDefault config false) table column).outcome = .ok outcome) :
    ∃ pairs : List LinkPair,
      pairs.map (·.column) = columns.filter (!isImplicitKey ·) ∧
        columns.filterMap (fun column => (fieldOf (setNoDefault config false) table column).text?) =
          pairs.map (chainText ·.spoken) ∧
        columns.filterMap (fun column => (fieldOf (setNoDefault config true) table column).text?) =
          pairs.map (chainText ·.silent) ∧
        ∀ pair ∈ pairs, pair.Ruled config table := by
  induction columns with
  | nil => exact ⟨[], rfl, rfl, rfl, nofun⟩
  | cons column rest ih =>
    obtain ⟨⟨outcome, houtcome⟩, hrest⟩ := List.forall_mem_cons.1 h
    obtain ⟨pairs, hcolumns, hspoken, hsilent, hruled⟩ := ih hrest
    have hcompared := compared_fieldOf config table column
    rw [List.filterMap_cons, List.filterMap_cons, List.filter_cons]
    generalize hfalse : fieldOf (setNoDefault config false) table column = first at *
    generalize htrue : fieldOf (setNoDefault config true) table column = second at *
    cases hcompared with
    | skipped hkey =>
      refine ⟨pairs, ?_, hspoken, hsilent, hruled⟩
      rw [hkey]
      exact hcolumns
    | failed => cases houtcome
    | @declared spoken silent imports hkey hsilenced =>
      refine ⟨⟨column, spoken, silent⟩ :: pairs, ?_, ?_, ?_, ?_⟩
      · rw [hkey]
        exact congrArg (column :: ·) hcolumns
      · exact congrArg (chainText spoken :: ·) hspoken
      · exact congrArg (chainText silent :: ·) hsilent
      · refine List.forall_mem_cons.2 ⟨⟨?_, ?_, hsilenced⟩, hruled⟩
        · rw [hfalse]
        · rw [htrue]

/-- **The switch for default values takes the links for them out of a file, and does nothing
else.** Both runs fail with the same error, or both make a file. -/
theorem fileOf_setNoDefault (config : Config) (table : Table) :
    (∃ e, fileOf (setNoDefault config false) table = .error e ∧
        fileOf (setNoDefault config true) table = .error e) ∨
      ∃ spoken silent, fileOf (setNoDefault config false) table = .ok spoken ∧
        fileOf (setNoDefault config true) table = .ok silent ∧
        DifferByDefaults config table spoken silent := by
  cases hspoken : fileOf (setNoDefault config false) table with
  | error e =>
    obtain ⟨before, column, after, hsplit, hbefore, hcolumn⟩ := fileOf_eq_error.1 hspoken
    refine .inl ⟨e, rfl, fileOf_eq_error.2 ⟨before, column, after, hsplit, ?_, ?_⟩⟩
    · intro earlier hearlier
      exact (compared_fieldOf config table.name earlier).settled_iff.2 (hbefore earlier hearlier)
    · exact (compared_fieldOf config table.name column).error_iff.2 hcolumn
  | ok spoken =>
    obtain ⟨hall, rfl⟩ := fileOf_eq_ok.1 hspoken
    have hsilent : AllSettled (setNoDefault config true) table := fun column hcolumn =>
      (compared_fieldOf config table.name column).settled_iff.2 (hall column hcolumn)
    have himports : (contentOf (setNoDefault config true) table).imports =
        (contentOf (setNoDefault config false) table).imports := by
      rw [contentOf, contentOf, importsOf_eq, importsOf_eq, List.map_map, List.map_map]
      refine congrArg (·.foldl Ordered.insertAll []) (List.map_congr_left ?_)
      exact fun column _ => (compared_fieldOf config table.name column).imports_eq
    obtain ⟨pairs, hcolumns, hfirst, hsecond, hruled⟩ := exists_pairs hall
    have hlength : (contentOf (setNoDefault config true) table).fields.length =
        (contentOf (setNoDefault config false) table).fields.length := by
      rw [contentOf, contentOf, hfirst, hsecond, List.length_map, List.length_map]
    exact .inr ⟨_, _, rfl, fileOf_eq_ok.2 ⟨hsilent, rfl⟩, rfl, rfl, himports, rfl, rfl, hlength,
      pairs, hcolumns, hfirst, hsecond, hruled⟩

end Table

end EntSchema.Schema
