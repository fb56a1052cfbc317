import EntSchema.Proofs.ParseTree.WellFormed
import EntSchema.Proofs.Schema.Files
import EntSchema.Proofs.Schema.Rules

/-!
# The modifiers of a declaration

Behind its builder a declaration has modifiers, one group for each thing that the column says:
whether it may be null, its default value, and the rest. Two groups can make the field optional, and
the second one looks at the texts in front of it to say so once. A primary key never is optional,
which is not written in the rules: they skip its default value, and that it is not null comes from
the script (`run_wellFormed`).
-/

namespace EntSchema.Schema

open Relational Config

/-- A link that stands for a constraint of the column. -/
inductive Link.IsModifier : Link → Prop
  | nillable : IsModifier .nillable
  | optional : IsModifier .optional
  | default (text : String) : IsModifier (.default text)
  | rawDefault (sql : String) : IsModifier (.rawDefault sql)
  | unique : IsModifier .unique
  | immutable : IsModifier .immutable

/-- A link that tells the default value of the column. -/
inductive Link.TellsDefault : Link → Prop
  | default (text : String) : TellsDefault (.default text)
  | rawDefault (sql : String) : TellsDefault (.rawDefault sql)

theorem Link.TellsDefault.isModifier {link : Link} (h : link.TellsDefault) : link.IsModifier := by
  cases h with
  | default text => exact .default text
  | rawDefault sql => exact .rawDefault sql

/-- The modifiers behind a builder agree with the column. -/
structure ModifiersAgree (column : Column) (builder : String) (modifiers : List Link) : Prop where
  only : ∀ link ∈ modifiers, link.IsModifier
  primary : column.isPrimary = true →
    ∀ link ∈ modifiers, link ≠ .nillable ∧ link ≠ .optional ∧ ¬link.TellsDefault
  nillable : column.isPrimary = false →
    modifiers.count .nillable = if column.isNotNull then 0 else 1
  optional : column.isPrimary = false → builder ≠ Link.optional.text →
    modifiers.count .optional = if column.isNotNull ∧ column.default = none then 0 else 1
  unique : .unique ∈ modifiers ↔ column.isUnique = true
  alone : column.isUnique = true → ∀ link ∈ modifiers, ¬link.TellsDefault

/-! ## The groups of links -/

section Groups

variable {switches : Switches} {column : Column} {builder template : String}
  {refinement : Option Refinement} {before : List Link} {value : DefaultValue} {link : Link}

/-- The links in front of the modifiers. -/
theorem exists_builderLinks (column : Column) (builder : String) (refinement : Option Refinement) :
    ∃ text, ∃ goType schemaType : Option String,
      builderLinks column builder refinement =
        .builder text ::
          ((goType.map Link.goType).toList ++ (schemaType.map Link.schemaType).toList) := by
  cases refinement with
  | none => exact ⟨_, none, none, rfl⟩
  | some refinement => exact ⟨_, nonEmpty? refinement.goType, nonEmpty? refinement.schemaType, rfl⟩

theorem nullLinks_of_notNull (h : column.isNotNull = true) : nullLinks column = [] := by
  rw [nullLinks, if_pos h]

theorem nullLinks_of_null (h : column.isNotNull = false) :
    nullLinks column = [.nillable, .optional] := by
  rw [nullLinks, h]
  rfl

theorem mem_defaultLinks (h : link ∈ defaultLinks switches template before value) :
    link = .optional ∨ link.TellsDefault := by
  rw [defaultLinks, List.mem_append, List.mem_append] at h
  rcases h with (hoptional | hdefault) | hraw
  · split at hoptional
    · cases hoptional
    · exact .inl (List.mem_singleton.1 hoptional)
  · split at hdefault
    · cases hdefault
    · rw [List.mem_singleton.1 hdefault]
      exact .inr (.default _)
  · obtain ⟨sql, -, rfl⟩ := Option.map_eq_some_iff.1 (Option.mem_toList.1 hraw)
    exact .inr (.rawDefault sql)

theorem rawDefault_mem_defaultLinks {sql : String} :
    .rawDefault sql ∈ defaultLinks switches template before value ↔ value.rawSql? = some sql := by
  have hfront : .rawDefault sql ∉
      (if before.any (·.text == Link.optional.text) then [] else [.optional]) ++
        (if switches.noDefault then []
          else [Link.default (Text.fill template value.literalText)]) := by
    split <;> split <;> simp
  rw [defaultLinks, List.mem_append, or_iff_right hfront, Option.mem_toList]
  refine Option.map_eq_some_iff.trans ⟨?_, fun hsql => ⟨sql, hsql, rfl⟩⟩
  rintro ⟨_, hsql, hlink⟩
  cases hlink
  exact hsql

/-- A default value makes the field optional, unless that is said in front of it. -/
theorem count_optional_defaultLinks :
    (defaultLinks switches template before value).count .optional =
      if before.any (·.text == Link.optional.text) then 0 else 1 := by
  have hdefault : ∀ text : String,
      (if switches.noDefault then [] else [Link.default text]).count .optional = 0 := by
    intro text
    cases switches.noDefault <;> rfl
  have hraw : (value.rawSql?.map Link.rawDefault).toList.count .optional = 0 := by
    cases value.rawSql? <;> rfl
  rw [defaultLinks, List.count_append, List.count_append, hdefault, hraw]
  split <;> rfl

theorem mem_closingLinks :
    link ∈ closingLinks switches column ↔
      (link = .unique ∧ column.isUnique = true) ∨
        (link = .immutable ∧ switches.immutableColumns.contains column.name = true) := by
  rw [closingLinks, List.mem_append]
  cases column.isUnique <;> cases switches.immutableColumns.contains column.name <;> simp

/-- Nothing else closes a declaration. -/
theorem count_closingLinks (hunique : link ≠ .unique) (himmutable : link ≠ .immutable) :
    (closingLinks switches column).count link = 0 := by
  rw [List.count_eq_zero, mem_closingLinks]
  rintro (⟨h, -⟩ | ⟨h, -⟩)
  · exact hunique h
  · exact himmutable h

/-- A setting whose links start otherwise does not make the field optional. -/
theorem any_optional_of_head? {setting : Option String} {make : String → Link} {c : Char}
    (hc : c ≠ 'O') (h : ∀ argument, (make argument).text.toList.head? = some c) :
    (setting.map make).toList.any (·.text == Link.optional.text) = false := by
  cases setting with
  | none => rfl
  | some argument =>
    have hne : (make argument).text ≠ Link.optional.text := by
      intro htext
      have hstart := h argument
      rw [htext] at hstart
      exact hc (Option.some.inj hstart).symm
    rw [Option.map_some, Option.toList_some, List.any_cons, List.any_nil, Bool.or_false]
    exact beq_eq_false_iff_ne.2 hne

/-- What stands in front of a default value makes the field optional when the column may be null, or
when the builder itself reads so. -/
theorem any_optional_front {text : String} {goType schemaType : Option String} :
    ((Link.builder text :: ((goType.map Link.goType).toList ++
        (schemaType.map Link.schemaType).toList)) ++ nullLinks column).any
      (·.text == Link.optional.text) =
      (text == Link.optional.text || !column.isNotNull) := by
  have hgo : (goType.map Link.goType).toList.any (·.text == Link.optional.text) = false :=
    any_optional_of_head? (by decide) fun argument =>
      (by simp : ("GoType(" ++ argument ++ ")").toList.head? = some 'G')
  have hschema :
      (schemaType.map Link.schemaType).toList.any (·.text == Link.optional.text) = false :=
    any_optional_of_head? (by decide) fun argument =>
      (by simp : ("SchemaType(" ++ argument ++ ")").toList.head? = some 'S')
  have hnull : (nullLinks column).any (·.text == Link.optional.text) = !column.isNotNull := by
    cases hcolumn : column.isNotNull with
    | true => rw [nullLinks_of_notNull hcolumn]; rfl
    | false => rw [nullLinks_of_null hcolumn]; rfl
  rw [List.any_append, List.any_cons, List.any_append, hgo, hschema, hnull, Bool.or_false,
    Bool.or_false]
  rfl

/-- The links for the default value, if the declaration mentions one. -/
def defaultGroup (switches : Switches) (column : Column) (template : String)
    (before : List Link) : List Link :=
  match declaredDefault? column with
  | some value => defaultLinks switches template before value
  | none => []

theorem mem_defaultGroup (h : link ∈ defaultGroup switches column template before) :
    (link = .optional ∨ link.TellsDefault) ∧ column.isPrimary = false ∧ column.default ≠ none := by
  rw [defaultGroup] at h
  split at h
  · rename_i value hvalue
    obtain ⟨hdefault, hprimary⟩ := declaredDefault?_eq_some.1 hvalue
    refine ⟨mem_defaultLinks h, hprimary, ?_⟩
    rw [hdefault]
    exact Option.some_ne_none value
  · cases h

theorem count_optional_defaultGroup (h : column.isPrimary = false) :
    (defaultGroup switches column template before).count .optional =
      if column.default = none ∨ before.any (·.text == Link.optional.text) then 0 else 1 := by
  have hdeclared : declaredDefault? column = column.default := by
    rw [declaredDefault?, h]
    cases column.default <;> rfl
  rw [defaultGroup, hdeclared]
  cases column.default with
  | none => rfl
  | some value =>
    rw [count_optional_defaultLinks]
    simp

end Groups

/-! ## The whole declaration -/

section Declaration

variable {switches : Switches} {column : Column} {builder : String}
  {refinement : Option Refinement}

theorem columnLinks_eq (switches : Switches) (column : Column) (builder : String)
    (refinement : Option Refinement) :
    columnLinks switches column builder refinement =
      builderLinks column builder refinement ++
        (nullLinks column ++
          defaultGroup switches column (defaultTemplate refinement)
            (builderLinks column builder refinement ++ nullLinks column) ++
          closingLinks switches column) := by
  rw [← List.append_assoc, ← List.append_assoc]
  rfl

/-- Which modifiers there are, group by group. -/
theorem mem_modifiers {template : String} {before : List Link} {link : Link}
    (h : link ∈ nullLinks column ++ defaultGroup switches column template before ++
      closingLinks switches column) :
    (column.isNotNull = false ∧ (link = .nillable ∨ link = .optional)) ∨
      (column.isPrimary = false ∧ column.default ≠ none ∧
        (link = .optional ∨ link.TellsDefault)) ∨
      (link = .unique ∧ column.isUnique = true) ∨ link = .immutable := by
  rw [List.mem_append, List.mem_append] at h
  rcases h with (hnull | hdefault) | hclosing
  · cases hcolumn : column.isNotNull with
    | true =>
      rw [nullLinks_of_notNull hcolumn] at hnull
      cases hnull
    | false =>
      rw [nullLinks_of_null hcolumn] at hnull
      exact .inl ⟨rfl, by simpa using hnull⟩
  · obtain ⟨hlink, hprimary, hsome⟩ := mem_defaultGroup hdefault
    exact .inr (.inl ⟨hprimary, hsome, hlink⟩)
  · rcases mem_closingLinks.1 hclosing with hunique | ⟨himmutable, -⟩
    · exact .inr (.inr (.inl hunique))
    · exact .inr (.inr (.inr himmutable))

/-- **The modifiers of a declaration agree with the column**, when primary columns are not null and
unique ones have no default value. -/
theorem modifiersAgree (hprimary : column.isPrimary = true → column.isNotNull = true)
    (hunique : column.isUnique = true → column.default = none) {text template : String}
    {before : List Link} (hbefore : before.any (·.text == Link.optional.text) =
      (text == Link.optional.text || !column.isNotNull)) :
    ModifiersAgree column text
      (nullLinks column ++ defaultGroup switches column template before ++
        closingLinks switches column) where
  only := by
    intro link hlink
    rcases mem_modifiers hlink with ⟨-, rfl | rfl⟩ | ⟨-, -, rfl | htells⟩ | ⟨rfl, -⟩ | rfl
    · exact .nillable
    · exact .optional
    · exact .optional
    · exact htells.isModifier
    · exact .unique
    · exact .immutable
  primary := by
    intro hkey link hlink
    rcases mem_modifiers hlink with ⟨hnull, -⟩ | ⟨hother, -⟩ | ⟨rfl, -⟩ | rfl
    · rw [hprimary hkey] at hnull
      cases hnull
    · rw [hkey] at hother
      cases hother
    · exact ⟨nofun, nofun, nofun⟩
    · exact ⟨nofun, nofun, nofun⟩
  nillable := by
    intro _
    have hgroup : (defaultGroup switches column template before).count .nillable = 0 := by
      rw [List.count_eq_zero]
      intro hmem
      rcases (mem_defaultGroup hmem).1 with hlink | hlink <;> cases hlink
    have hclosing : (closingLinks switches column).count .nillable = 0 :=
      count_closingLinks nofun nofun
    rw [List.count_append, List.count_append, hgroup, hclosing]
    cases hcolumn : column.isNotNull with
    | true => rw [nullLinks_of_notNull hcolumn]; rfl
    | false => rw [nullLinks_of_null hcolumn]; rfl
  optional := by
    intro hkey hbuilder
    have hclosing : (closingLinks switches column).count .optional = 0 :=
      count_closingLinks nofun nofun
    -- The default value adds nothing when a text in front reads so, be it that of the builder.
    rw [beq_eq_false_iff_ne.2 hbuilder, Bool.false_or] at hbefore
    rw [List.count_append, List.count_append, count_optional_defaultGroup hkey, hbefore, hclosing]
    cases hcolumn : column.isNotNull with
    | true =>
      rw [nullLinks_of_notNull hcolumn]
      simp
    | false =>
      rw [nullLinks_of_null hcolumn]
      simp
  unique := by
    constructor
    · intro hmem
      rcases mem_modifiers hmem with ⟨-, h | h⟩ | ⟨-, -, h | h⟩ | ⟨-, h⟩ | h
      case inr.inr.inl => exact h
      all_goals cases h
    · intro h
      exact List.mem_append_right _ (mem_closingLinks.2 (.inl ⟨rfl, h⟩))
  alone := by
    intro hcolumn link hlink htells
    rcases mem_modifiers hlink with ⟨-, rfl | rfl⟩ | ⟨-, hsome, -⟩ | ⟨rfl, -⟩ | rfl
    case inr.inl => exact hsome (hunique hcolumn)
    all_goals cases htells

/-- A script never declares a primary column that may be null. -/
theorem notNull_of_primary {tree : Json} {tables : List Table} {table : Table}
    (htables : ParseTree.tablesOf tree = .ok tables) (htable : table ∈ tables)
    (hcolumn : column ∈ table.columns) (hprimary : column.isPrimary = true) :
    column.isNotNull = true := by
  obtain ⟨script, left, -, hrun, rfl⟩ := ParseTree.tablesOf_eq_ok.1 htables
  obtain ⟨unfinished, hmem, rfl⟩ := List.mem_map.1 htable
  exact ((ParseTree.run_wellFormed hrun unfinished hmem).columns column hcolumn).notNull hprimary

/-- **Primary keys are never optional, and a field is made optional once.** A declaration is its
builder, perhaps the two types, and then modifiers that agree with the column, one behind the
other. -/
theorem declared_modifiersAgree {tree : Json} {tables : List Table} {table : Table}
    {config : Config} {links : List Link} (htables : ParseTree.tablesOf tree = .ok tables)
    (htable : table ∈ tables) (hcolumn : column ∈ table.columns)
    (hrule : firstOverride? config.overrides column = none)
    (hlinks : (fieldOf config table.name column).outcome = .ok (.declared links)) :
    (Outcome.declared links).text? = some (".\n".intercalate (links.map (·.text))) ∧
      ∃ builder, ∃ goType schemaType : Option String, ∃ modifiers,
        links = .builder builder ::
          ((goType.map Link.goType).toList ++ (schemaType.map Link.schemaType).toList ++
            modifiers) ∧
        ModifiersAgree column builder modifiers := by
  refine ⟨rfl, ?_⟩
  rcases links_of_declared hlinks with ⟨rule, hfound, -⟩ | ⟨template, -, hunique, rfl⟩
  · rw [hrule] at hfound
    cases hfound
  · obtain ⟨text, goType, schemaType, hfront⟩ :=
      exists_builderLinks column template (config.refinements.lookup template)
    rw [columnLinks_eq, hfront]
    exact ⟨text, goType, schemaType, _, rfl, modifiersAgree
      (notNull_of_primary htables htable hcolumn) hunique any_optional_front⟩

end Declaration

/-! ## The script of a table of events -/

open ParseTree in
/-- A script that declares `eventTable`. -/
def eventTree : Json :=
  let call function := constraintNode 2
    [("raw_expr", .object [("FuncCall", .object [("funcname", .array [stringNode function])])])]
  scriptNode [tableNode "events"
    [ columnNode "id" "int8" []
    , columnNode "token" "uuid" [call "gen_random_uuid"]
    , columnNode "payload" "jsonb" []
    , columnNode "at" "timestamptz" [constraintNode 1 [], call "now"]
    , constraintNode 5 [("keys", .array [stringNode "id", stringNode "token"])] ]]

theorem tablesOf_eventTree : ParseTree.tablesOf eventTree = .ok [eventTable] := by
  decide +kernel

/-- The declaration of a column that is optional for its default value alone. -/
theorem filledColumn_modifiersAgree :
    ∃ links, (fieldOf eventSettings eventTable.name filledColumn).outcome = .ok (.declared links) ∧
      (Outcome.declared links).text? = some (".\n".intercalate (links.map (·.text))) ∧
      ∃ builder, ∃ goType schemaType : Option String, ∃ modifiers,
        links = .builder builder ::
          ((goType.map Link.goType).toList ++ (schemaType.map Link.schemaType).toList ++
            modifiers) ∧
        ModifiersAgree filledColumn builder modifiers := by
  have hcolumn : filledColumn ∈ eventTable.columns := by decide
  have hrule : firstOverride? eventSettings.overrides filledColumn = none := by decide
  refine ⟨[.builder "field.Time(\"at\")", .optional, .default "Default(now)", .rawDefault "now()",
    .immutable], by decide +kernel, ?_⟩
  exact declared_modifiersAgree tablesOf_eventTree List.mem_cons_self hcolumn hrule
    (by decide +kernel)

end EntSchema.Schema
