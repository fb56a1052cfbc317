import EntSchema.Proofs.ParseTree.DefaultGrammar
import EntSchema.Proofs.ParseTree.Nodes
import EntSchema.Proofs.Schema.Literals
import EntSchema.Proofs.Schema.NoDefault
import EntSchema.Proofs.Text.Lines
import Mathlib.Data.List.Infix

/-!
# String constants as default values

The text of a constant is what the printer of JSON makes of it, and it goes into the source text as
it is. So each escape of the printer has to be an escape of a Go literal, and to denote the same
character there (`PrintedAs.unit?_eq`). Casts around the constant do not touch its text, and neither
does the template that it is put into: only the template itself is looked through for a placeholder
(`filled_fillChars`).
-/

namespace EntSchema.Schema

open Relational Config ParseTree

/-! ## Printed strings as Go literals -/

/-- How the printer writes a character of a string. -/
inductive PrintedAs (c : Char) : List Char → Prop
  /-- As an escape of two characters, which stands for the same byte in Go. -/
  | short {d : Char} {byte : UInt8} (hescape : simpleEscapes.lookup d = some byte)
      (hbyte : String.utf8EncodeChar c = [byte]) (hd : 0x20 ≤ d.toNat) : PrintedAs c ['\\', d]
  | number (h : c.toNat < 0x20) : PrintedAs c ('\\' :: 'u' :: Text.hexDigits 4 c.toNat)
  | self (hquote : c ≠ '"') (hbackslash : c ≠ '\\') (h : 0x20 ≤ c.toNat) : PrintedAs c [c]

section Printed

variable {c : Char} {s written : List Char}

theorem printedAs_escapeChar (c : Char) : PrintedAs c (Json.escapeChar c) := by
  rw [Json.escapeChar]
  split
  · subst c
    exact .short rfl rfl (by decide)
  split
  · subst c
    exact .short rfl rfl (by decide)
  split
  · subst c
    exact .short rfl rfl (by decide)
  split
  · subst c
    exact .short rfl rfl (by decide)
  split
  · subst c
    exact .short rfl rfl (by decide)
  split
  · subst c
    exact .short rfl rfl (by decide)
  split
  · subst c
    exact .short rfl rfl (by decide)
  split
  · rename_i hcontrol
    exact .number hcontrol
  · rename_i hquote hbackslash _ _ _ _ _ hcontrol
    exact .self hquote hbackslash (Nat.not_lt.1 hcontrol)

/-- A printed character is read as one unit of a Go literal. -/
theorem PrintedAs.unit?_eq (h : PrintedAs c written) (rest : List Char) :
    unit? (written ++ rest) = some (String.utf8EncodeChar c, rest) := by
  cases h with
  | short hescape hbyte _ =>
    rw [List.cons_append, List.singleton_append, unit?, if_neg (by decide), if_pos rfl, escape?,
      hescape, hbyte]
  | number h => exact unit?_hexDigits (by omega) rest
  | self hquote hbackslash h =>
    refine unit?_self ⟨hquote, hbackslash, ?_⟩ rest
    rintro rfl
    exact absurd h (by decide)

/-- No control character below the blank is left. -/
theorem PrintedAs.le_toNat (h : PrintedAs c written) : ∀ d ∈ written, 0x20 ≤ d.toNat := by
  have hdigit : ∀ n < 16, 0x20 ≤ (Text.digitChar n).toNat := by decide
  cases h with
  | short _ _ hd =>
    rw [List.forall_mem_cons, List.forall_mem_singleton]
    exact ⟨by decide, hd⟩
  | number _ =>
    rw [List.forall_mem_cons, List.forall_mem_cons]
    refine ⟨by decide, by decide, ?_⟩
    intro d hd
    obtain ⟨i, -, rfl⟩ := List.mem_map.1 hd
    exact hdigit _ (Nat.mod_lt _ (by decide))
  | self _ _ h => exact List.forall_mem_singleton.2 h

theorem denotes_quote (s : List Char) : Denotes (Json.quote s) s := by
  rw [Denotes, Json.quote, List.cons_append]
  exact content?_flatMap (fun c _ => (printedAs_escapeChar c).unit?_eq) []

theorem le_toNat_of_mem_quote : ∀ c ∈ Json.quote s, 0x20 ≤ c.toNat := by
  rw [Json.quote, List.cons_append, List.forall_mem_cons, List.forall_mem_append,
    List.forall_mem_flatMap, List.forall_mem_singleton]
  exact ⟨by decide, fun c _ => (printedAs_escapeChar c).le_toNat, by decide⟩

/-- A text that spells another one as a Go literal, in one line. -/
structure Spells (literal s : List Char) : Prop where
  denotes : ∀ t, Denotes literal t ↔ t = s
  noControl : ∀ c ∈ literal, 0x20 ≤ c.toNat
  oneLine : Text.lines literal = [literal]

/-- **A printed string is a Go literal for the string.** -/
theorem spells_quote (s : List Char) : Spells (Json.quote s) s := by
  have hsome : Json.quote s ≠ [] := List.cons_ne_nil _ _
  have hcontrol := le_toNat_of_mem_quote (s := s)
  have hfeed : '\n' ∉ Json.quote s := fun h => absurd (hcontrol _ h) (by decide)
  have hreturn : '\r' ∉ Json.quote s := fun h => absurd (hcontrol _ h) (by decide)
  refine ⟨?_, hcontrol, ?_⟩
  · intro t
    constructor
    · exact fun ht => ht.unique (denotes_quote s)
    · rintro rfl
      exact denotes_quote _
  · have hlines : Text.linePieces (Json.quote s) = [Json.quote s] := by
      apply Text.pieces_eq_singleton
      intro c hc
      rw [beq_eq_false_iff_ne]
      exact fun heq => hfeed (heq ▸ hc)
    rw [Text.lines_eq_linePieces hsome hreturn ?_, hlines]
    intro hlast
    exact hfeed (List.mem_of_getLast? hlast)

end Printed

/-! ## Constants under casts -/

/-- A string constant under casts to some types, from the outside in. -/
inductive IsCastString (s : String) : String → Json → List String → Prop
  | constant {body : Json} (hvalue : body.get? "val" = some (stringNode s)) :
    IsCastString s "A_Const" body []
  | cast {body inner : Json} {tag type : String} {types : List String}
      (hargument : LeadsToTagged body "arg" (tag, inner)) (hinner : IsCastString s tag inner types)
      (htype : EndsInName body "typeName.TypeName.names" type) :
    IsCastString s "TypeCast" body (type :: types)

/-- The value of a string constant under casts. -/
def castString (types : List String) (s : String) : DefaultValue :=
  castTo types (.literal "String" (String.ofList (Json.quote s.toList)))

theorem IsCastString.mirrors {s tag : String} {body : Json} {types : List String}
    (h : IsCastString s tag body types) :
    Mirrors tag body types (.literal "String" (String.ofList (Json.quote s.toList))) := by
  induction h with
  | constant hvalue => exact .constant ⟨_, hvalue⟩
  | cast hargument _ htype ih => exact .cast hargument ih htype

theorem toList_castString (types : List String) (s : String) :
    (castString types s).literalText.toList = Json.quote s.toList := by
  rw [castString, literalText_castTo, DefaultValue.literalText, String.toList_ofList]

/-! ## Templates -/

/-- A value is put in place of the first placeholder of a template. A template without placeholders
stays. -/
inductive Filled (template value : List Char) : List Char → Prop
  | first (front back : List Char) (htemplate : template = front ++ '%' :: 's' :: back)
      (hfirst : ¬['%', 's'] <:+: front) : Filled template value (front ++ value ++ back)
  | none (h : ¬['%', 's'] <:+: template) : Filled template value template

theorem filled_fillChars (template value : List Char) :
    Filled template value (Text.fillChars value template) := by
  fun_induction Text.fillChars value template with
  | case1 => exact .none (by decide)
  | case2 rest => exact .first [] rest rfl (by decide)
  | case3 c rest hother ih =>
    -- A placeholder that begins at `c` would be the first one.
    have hstart : ∀ more, more <+: rest → ¬['%', 's'] <+: c :: more := by
      rintro more ⟨tail, rfl⟩ hprefix
      obtain ⟨hc, d, rfl⟩ := List.cons_prefix_cons.1 hprefix
      exact hother _ hc.symm rfl
    have hextend : ∀ more, more <+: rest → ¬['%', 's'] <:+: more → ¬['%', 's'] <:+: c :: more := by
      intro more hmore hnot
      rw [List.infix_cons_iff, not_or]
      exact ⟨hstart more hmore, hnot⟩
    generalize Text.fillChars value rest = filled at ih
    cases ih with
    | first front back htemplate hfirst =>
      subst htemplate
      exact .first (c :: front) back rfl (hextend _ ⟨_, rfl⟩ hfirst)
    | none h => exact .none (hextend _ (List.prefix_refl _) h)

/-! ## The declaration of a column -/

/-- A column whose declaration has to state its default value. -/
structure StatesDefault (config : Config) (column : Column) (value : DefaultValue) : Prop where
  default : column.default = some value
  notPrimary : column.isPrimary = false
  notUnique : column.isUnique = false
  noOverride : firstOverride? config.overrides column = none
  spoken : config.switches.noDefault = false

/-- One link of a declaration, and no other one, states a default value: the template with the text
of the value in place of its placeholder. -/
def StatedIn (links : List Link) (template literal : String) : Prop :=
  ∃ before after text, links = before ++ .default text :: after ∧
    (∀ other, .default other ∉ before ++ after) ∧
    Filled template.toList literal.toList text.toList

section Column

variable {config : Config} {column : Column} {value : DefaultValue} {builder : String}

theorem statedIn_columnLinks (hdeclared : declaredDefault? column = some value)
    (hspoken : config.switches.noDefault = false) (refinement : Option Refinement) :
    StatedIn (columnLinks config.switches column builder refinement) (defaultTemplate refinement)
      value.literalText := by
  obtain ⟨before, after, hlinks, honly, -, -⟩ :=
    @exists_columnLinks config builder column refinement value hdeclared
  have hswitches : (setNoDefault config false).switches = config.switches := by
    rw [setNoDefault, ← hspoken]
  refine ⟨before, after, Text.fill (defaultTemplate refinement) value.literalText, ?_, honly, ?_⟩
  · rw [← hswitches, hlinks false]
    rfl
  · rw [Text.fill, String.toList_ofList]
    exact filled_fillChars _ _

/-- A column that has to state its default value does so, if its type has a builder. -/
theorem fieldOf_statesDefault (table : String) (h : StatesDefault config column value)
    (hbuilder : config.builders.lookup column.type = some builder) :
    ∃ links, (fieldOf config table column).outcome = .ok (.declared links) ∧
      StatedIn links (defaultTemplate (config.refinements.lookup builder)) value.literalText := by
  have hkey : isImplicitKey column = false := by
    rw [isImplicitKey, h.notPrimary, Bool.and_false, Bool.false_and]
  have hunique : column.isUnique = true → column.default = none := fun hunique =>
    absurd (h.notUnique.symm.trans hunique) (by decide)
  have hmapped : Ruled config table column _ := .mapped ⟨hkey, h.noOverride⟩ hbuilder hunique
  have hdeclared := declaredDefault?_eq_some.2 ⟨h.default, h.notPrimary⟩
  exact ⟨_, congrArg (·.outcome) hmapped.fieldOf_eq, statedIn_columnLinks hdeclared h.spoken _⟩

end Column

/-- **A string constant keeps its meaning**: under any casts it has a value, whose text spells the
string as a Go literal in one line, and that text is what a declaration has in place of the first
placeholder of its template for default values. -/
theorem stringDefault_spelled {s tag : String} {body : Json} {types : List String}
    (h : IsCastString s tag body types) :
    ∃ value, resolveDefault tag body = .ok value ∧
      Spells value.literalText.toList s.toList ∧
      ∀ config table column builder, StatesDefault config column value →
        config.builders.lookup column.type = some builder →
          ∃ links, (fieldOf config table column).outcome = .ok (.declared links) ∧
            StatedIn links (defaultTemplate (config.refinements.lookup builder))
              value.literalText := by
  refine ⟨castString types s, resolveDefault_eq_ok.2 ⟨_, _, h.mirrors, rfl⟩, ?_, ?_⟩
  · rw [toList_castString]
    exact spells_quote s.toList
  · intro config table column builder hstates hbuilder
    exact fieldOf_statesDefault table hstates hbuilder

/-! ## A string with characters that are escaped -/

/-- A string with a placeholder, quotes, a control character and a line feed. -/
def noteText : String := "50%s \"off\"\x01\n"

/-- The body of a cast. -/
def castBody (tag : String) (inner : Json) (type : String) : Json :=
  .object [("arg", .object [(tag, inner)]), ("typeName", typeNode type)]

/-- `noteText` under two casts. -/
def noteBody : Json :=
  castBody "TypeCast" (castBody "A_Const" (.object [("val", stringNode noteText)]) "varchar") "text"

/-- The value of `noteBody`. -/
def noteValue : DefaultValue :=
  .cast (.cast (.literal "String" "\"50%s \\\"off\\\"\\u0001\\n\"") "varchar") "text"

/-- Settings with a template of their own for default values, with two placeholders. -/
def noteSettings : Config where
  builders := [("text", "field.String(\"%s\")")]
  refinements := [("field.String(\"%s\")", { defaultTemplate := some "Default(or(%s, %s))" })]

/-- A column with `noteValue` as its default value. -/
def noteColumn : Column where
  name := "note"
  type := "text"
  isNotNull := true
  default := some noteValue

theorem isCastString_castBody {s tag type : String} {inner : Json} {types : List String}
    (hinner : IsCastString s tag inner types) (htype : type ≠ "") :
    IsCastString s "TypeCast" (castBody tag inner type) (type :: types) := by
  refine .cast ⟨[], Json.get?_object (by decide)⟩ hinner ?_
  have hsteps : Json.steps "typeName.TypeName.names" =
      ["typeName".toList, "TypeName".toList, "names".toList] := by decide
  refine ⟨.array [stringNode type], stringNode type, ?_, rfl, stringNode?_stringNode type, htype⟩
  rw [Json.get?, hsteps]
  rfl

/-- The placeholder inside the string stays what it is. -/
theorem noteBody_spelled :
    IsCastString noteText "TypeCast" noteBody ["text", "varchar"] ∧
      resolveDefault "TypeCast" noteBody = .ok noteValue ∧
      Spells noteValue.literalText.toList noteText.toList ∧
      StatesDefault noteSettings noteColumn noteValue ∧
      (∃ links, (fieldOf noteSettings "notes" noteColumn).outcome = .ok (.declared links) ∧
        StatedIn links "Default(or(%s, %s))" noteValue.literalText) ∧
      (fieldOf noteSettings "notes" noteColumn).outcome = .ok (.declared
        [ .builder "field.String(\"note\")", .optional
        , .default "Default(or(\"50%s \\\"off\\\"\\u0001\\n\", %s))" ]) := by
  have hbody : IsCastString noteText "TypeCast" noteBody ["text", "varchar"] :=
    isCastString_castBody
      (isCastString_castBody (.constant (Json.get?_object (by decide))) (by decide)) (by decide)
  have hvalue : resolveDefault "TypeCast" noteBody = .ok noteValue := by decide +kernel
  have hstates : StatesDefault noteSettings noteColumn noteValue := ⟨rfl, rfl, rfl, rfl, rfl⟩
  have htemplate : defaultTemplate (noteSettings.refinements.lookup "field.String(\"%s\")") =
      "Default(or(%s, %s))" := by decide +kernel
  obtain ⟨value, hresolved, hspells, hstated⟩ := stringDefault_spelled hbody
  rw [hvalue, Except.ok.injEq] at hresolved
  subst hresolved
  have hlinks := hstated noteSettings "notes" noteColumn "field.String(\"%s\")" hstates rfl
  rw [htemplate] at hlinks
  exact ⟨hbody, hvalue, hspells, hstates, hlinks, by decide +kernel⟩

end EntSchema.Schema
