import EntSchema.Proofs.Config.Overrides
import EntSchema.Proofs.Schema.Failures
import EntSchema.Proofs.Schema.OnePass
import EntSchema.Proofs.Schema.StringDefaults

/-!
# Overrides shield a column

A column that an override matches is declared as that rule says, and nothing else of the settings
counts: neither the builders and their refinements, nor the switches, nor a rule behind it. So two
settings that have the same rules up to that one treat the column alike, although they may differ in
everything else (`fieldOf_shielded`).

The rules need not even be written alike, since a rule is found by what it says (`SaysSame`). And
the shield is complete: the column has a declaration, whatever is wrong with its type or with its
constraints.
-/

namespace EntSchema.Schema

open Relational Config

/-- A column is declared as a rule says: with the name of the column in the template of the rule, and
with the imports of the rule. It is so in any context, and it never fails. -/
structure DeclaredBy (config : Config) (table : String) (column : Column) (rule : Override) :
    Prop where
  result : fieldOf config table column =
    { outcome := .ok (.declared [.builder (Text.fill rule.template column.name)])
      imports := rule.imports }
  text : ∃ text, (fieldOf config table column).text? = some text ∧
    Filled rule.template.toList column.name.toList text.toList
  context : ∀ imports, (columnPass config table column).runFrom imports =
    ((fieldOf config table column).outcome, Ordered.insertAll imports rule.imports)
  settled : ∀ e, (fieldOf config table column).outcome ≠ .error e

section Shielding

variable {config other : Config} {table : String} {column : Column} {rule found : Override}
  {place : Nat}

theorem chainText_builder (text : String) : chainText [.builder text] = text := by
  rw [← String.toList_inj, chainText, String.toList_intercalate, List.map_singleton,
    List.map_singleton, List.intercalate_singleton]
  rfl

/-- **The rule that decides declares the column.** -/
theorem declaredBy_of_decidesAt (hkey : isImplicitKey column = false)
    (hrule : DecidesAt config.overrides column place rule) (table : String) :
    DeclaredBy config table column rule := by
  have hresult := (Ruled.overridden hkey hrule.firstOverride?_eq :
    Ruled config table column _).fieldOf_eq
  refine ⟨hresult, ⟨Text.fill rule.template column.name, ?_, ?_⟩, ?_, ?_⟩
  · rw [hresult, FieldResult.text?]
    exact congrArg some (chainText_builder _)
  · rw [Text.fill, String.toList_ofList]
    exact filled_fillChars _ _
  · intro imports
    rw [columnPass_runFrom, hresult]
  · intro e herror
    rw [hresult] at herror
    cases herror

/-- A rule in other words declares the same. -/
theorem DeclaredBy.reworded (h : DeclaredBy config table column found)
    (hsame : SaysSame rule found) : DeclaredBy config table column rule where
  result := by rw [h.result, hsame.template, hsame.imports]
  text := by
    obtain ⟨text, htext, hfilled⟩ := h.text
    rw [hsame.template] at hfilled
    exact ⟨text, htext, hfilled⟩
  context := by
    intro imports
    rw [h.context, hsame.imports]
  settled := h.settled

/-- **A rule shields a column from the rest of the settings.** The first rule that holds of a column
declares it, and it does so under all other settings with the same rules up to that one, whatever
else they say. Rules in front of it can be left out. -/
theorem fieldOf_shielded (hkey : isImplicitKey column = false)
    (hrule : DecidesAt config.overrides column place rule)
    (hother : List.Forall₂ SaysSame (config.overrides.take (place + 1))
      (other.overrides.take (place + 1))) (table : String) :
    DeclaredBy config table column rule ∧ DeclaredBy other table column rule ∧
      fieldOf other table column = fieldOf config table column ∧
      (∀ imports, (columnPass other table column).runFrom imports =
        (columnPass config table column).runFrom imports) ∧
      ∀ kept, kept.Sublist (config.overrides.take place) →
        DeclaredBy { config with overrides := kept ++ config.overrides.drop place } table column
          rule := by
  obtain ⟨found, hfound, hsame⟩ := hrule.reworded hother
  have hfirst := declaredBy_of_decidesAt hkey hrule table
  have hsecond := (declaredBy_of_decidesAt hkey hfound table).reworded hsame
  have hresults := hsecond.result.trans hfirst.result.symm
  refine ⟨hfirst, hsecond, hresults, ?_, ?_⟩
  · intro imports
    rw [hsecond.context, hfirst.context, hresults]
  · intro kept hkept
    have hwithout := hrule.without hkept
    exact declaredBy_of_decidesAt hkey hwithout table

end Shielding

/-! ## A column of handles -/

/-- A rule for the column of handles. -/
def handleRule : Override where
  name := "handles"
  matchers :=
    [ { property := .name, expected := some (.text "handle") }
    , { property := .isUnique, expected := some (.flag true) } ]
  template := "handle.Field(\"%s\", \"%s\")"
  imports := ["example.com/handle"]

/-- Settings with the rule behind one that does not hold and in front of one that does. -/
def handleSettings : Config where
  builders := [("text", "field.String(\"%s\")")]
  overrides :=
    [ { name := "keys", matchers := [{ property := .isPrimary, expected := some (.flag true) }]
        template := "field.Key(\"%s\")" }
    , handleRule
    , { name := "rest", template := "field.Any(\"%s\")" } ]

/-- Settings without builders that have the rule in other words, and no rule behind it. -/
def barrenSettings : Config where
  switches := { noDefault := true, immutableColumns := ["handle"] }
  overrides :=
    [ { name := "keys", matchers := [{ property := .isPrimary, expected := some (.flag true) }]
        template := "field.Key(\"%s\")" }
    , { handleRule with
        matchers :=
          [ { property := .isUnique, expected := some (.flag true) }
          , { property := .name, expected := some (.text "handle") }
          , { property := .isUnique, expected := some (.flag true) } ] } ]

/-- The rule saves the column from both errors. -/
theorem handleColumn_shielded :
    (fieldOf { handleSettings with overrides := [] } "users" handleColumn).outcome =
        .error (.uniqueWithDefault "users" "handle") ∧
      (fieldOf { barrenSettings with overrides := [] } "users" handleColumn).outcome =
        .error (.missingTypeMapping "users" "handle" "text") ∧
      DecidesAt handleSettings.overrides handleColumn 1 handleRule ∧
      (fieldOf barrenSettings "users" handleColumn).text? =
        some "handle.Field(\"handle\", \"%s\")" ∧
      (columnPass barrenSettings "users" handleColumn).runFrom ["net/url"] =
        ((fieldOf handleSettings "users" handleColumn).outcome,
          ["example.com/handle", "net/url"]) ∧
      DeclaredBy { handleSettings with overrides := handleSettings.overrides.drop 1 } "users"
        handleColumn handleRule := by
  have hrule : DecidesAt handleSettings.overrides handleColumn 1 handleRule :=
    ⟨rfl, by decide, by decide⟩
  have hsame : List.Forall₂ SaysSame (handleSettings.overrides.take 2)
      (barrenSettings.overrides.take 2) := by
    refine .cons ⟨fun _ => Iff.rfl, rfl, rfl⟩ (.cons ⟨?_, rfl, rfl⟩ .nil)
    intro matcher
    simp only [handleRule, List.mem_cons, List.not_mem_nil, or_false]
    rw [or_left_comm, or_self]
  obtain ⟨-, hsecond, hresults, -, hwithout⟩ := fieldOf_shielded (by decide) hrule hsame "users"
  refine ⟨by decide +kernel, by decide +kernel, hrule, ?_, ?_, hwithout [] (List.nil_sublist _)⟩
  · rw [hsecond.result]
    decide +kernel
  · rw [hsecond.context, hresults]
    decide +kernel

end EntSchema.Schema
