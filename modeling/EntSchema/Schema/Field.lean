import EntSchema.Config.Override
import EntSchema.Schema.Literal
import EntSchema.Text.Placeholder

/-!
# Field declarations

A column becomes a chain of builder calls. The chain starts with a builder that its type, or an
override, selects; the constraints of the column add modifiers in a fixed order: nullability,
default value, uniqueness, immutability.

A declaration is kept as the list of its links. Next to it stand the imports that it needs. Both
depend on the settings and the column alone, never on another column.
-/

namespace EntSchema.Schema

open Relational Config

/-- Why a column has no declaration. -/
inductive FieldError where
  /-- No builder is configured for the type. -/
  | missingTypeMapping (table column type : String)
  /-- A unique column has a default value. -/
  | uniqueWithDefault (table column : String)
  deriving DecidableEq, Repr, Inhabited

/-- The wording of an error. -/
def FieldError.message : FieldError → String
  | missingTypeMapping table column type =>
    "mapping for " ++ inQuotes table ++ "." ++ inQuotes column ++ " type " ++ inQuotes type ++
      " not found in the configuration"
  | uniqueWithDefault table column =>
    inQuotes table ++ "." ++ inQuotes column ++ " is unique, it cannot have a default value"

/-! ## Links of a declaration -/

/-- A link of a declaration. -/
inductive Link where
  /-- A filled-in builder or override. -/
  | builder (text : String)
  | goType (argument : String)
  | schemaType (argument : String)
  | nillable
  | optional
  /-- A filled-in template for the default value. -/
  | default (text : String)
  /-- The expression that the database evaluates for the default value. -/
  | rawDefault (sql : String)
  | unique
  | immutable
  deriving DecidableEq, Repr, Inhabited

/-- The source text of a link. -/
def Link.text : Link → String
  | builder text => text
  | goType argument => "GoType(" ++ argument ++ ")"
  | schemaType argument => "SchemaType(" ++ argument ++ ")"
  | nillable => "Nillable()"
  | optional => "Optional()"
  | default text => text
  | rawDefault sql =>
    "Annotations(&entsql.Annotation\x7b\n\tDefault: " ++ goLiteral sql ++ ",\n\x7d)"
  | unique => "Unique()"
  | immutable => "Immutable()"

/-- What stands between two links: a chain goes on in a new line. -/
def linkSeparator : String := ".\n"

/-- The source text of a declaration. -/
def chainText (links : List Link) : String :=
  linkSeparator.intercalate (links.map (·.text))

/-! ## From a column to its declaration -/

/-- What becomes of a column: it is left out, or it has a declaration. -/
inductive Outcome where
  | skipped
  | declared (links : List Link)
  deriving DecidableEq, Repr, Inhabited

/-- The outcome for a column, and the imports that it adds. A column that fails may already have
added some. -/
structure FieldResult where
  outcome : Except FieldError Outcome
  imports : List String := []

/-- The type of a primary key that is declared although its name is the usual one. -/
def uuidType : String := "uuid"

/-- The import that a default evaluated by the database needs. -/
def entsqlImport : String := "entgo.io/ent/dialect/entsql"

/-- The template for a default value where no refinement gives another one. -/
def usualDefaultTemplate : String := "Default(%s)"

/-- Whether a column is the implicit key, which needs no declaration. -/
def isImplicitKey (column : Column) : Bool :=
  column.name == "id" && column.isPrimary && column.type != uuidType

/-- A setting that is present and not empty. -/
def nonEmpty? (setting : Option String) : Option String :=
  setting.filter (· ≠ "")

/-- The links that select the builder. -/
def builderLinks (column : Column) (builder : String) (refinement : Option Refinement) :
    List Link :=
  match refinement with
  | none => [.builder (Text.fill builder column.name)]
  | some refinement =>
    [.builder (Text.fill (refinement.builder.getD builder) column.name)] ++
      ((nonEmpty? refinement.goType).map Link.goType).toList ++
      ((nonEmpty? refinement.schemaType).map Link.schemaType).toList

/-- The links for a column that may be null. -/
def nullLinks (column : Column) : List Link :=
  if column.isNotNull then [] else [.nillable, .optional]

/-- The template for the default value of a column. -/
def defaultTemplate (refinement : Option Refinement) : String :=
  ((refinement.bind fun r => nonEmpty? r.defaultTemplate)).getD usualDefaultTemplate

/-- The links for a default value, after the links `before`. The field is optional then, which is
said once only. -/
def defaultLinks (switches : Switches) (template : String) (before : List Link)
    (value : DefaultValue) : List Link :=
  (if before.any (·.text == Link.optional.text) then [] else [.optional]) ++
    (if switches.noDefault then [] else [.default (Text.fill template value.literalText)]) ++
    (value.rawSql?.map Link.rawDefault).toList

/-- The default value that a declaration mentions. That of a primary key is left to the
database. -/
def declaredDefault? (column : Column) : Option DefaultValue :=
  column.default.filter fun _ => !column.isPrimary

/-- The last links of a declaration. -/
def closingLinks (switches : Switches) (column : Column) : List Link :=
  (if column.isUnique then [.unique] else []) ++
    (if switches.immutableColumns.contains column.name then [.immutable] else [])

/-- The links of a column with a builder, whether or not its constraints agree. -/
def columnLinks (switches : Switches) (column : Column) (builder : String)
    (refinement : Option Refinement) : List Link :=
  let front := builderLinks column builder refinement ++ nullLinks column
  let defaults := match declaredDefault? column with
    | some value => defaultLinks switches (defaultTemplate refinement) front value
    | none => []
  front ++ defaults ++ closingLinks switches column

/-- The imports that the default value of a column needs. -/
def defaultImports (column : Column) : List String :=
  match (declaredDefault? column).bind (·.rawSql?) with
  | some _ => [entsqlImport]
  | none => []

/-- The result for a column whose type has a builder. -/
def mappedField (config : Config) (table : String) (column : Column) (builder : String) :
    FieldResult :=
  let refinement := config.refinements.lookup builder
  let imports := match refinement with
    | some r => r.imports
    | none => []
  if column.default.isSome && column.isUnique then
    { outcome := .error (.uniqueWithDefault table column.name), imports }
  else
    { outcome := .ok (.declared (columnLinks config.switches column builder refinement))
      imports := imports ++ defaultImports column }

/--
The result for one column of a table. The implicit key is left out. An override replaces the whole
declaration. Otherwise the type selects a builder.
-/
def fieldOf (config : Config) (table : String) (column : Column) : FieldResult :=
  if isImplicitKey column then { outcome := .ok .skipped }
  else match firstOverride? config.overrides column with
    | some rule =>
      { outcome := .ok (.declared [.builder (Text.fill rule.template column.name)])
        imports := rule.imports }
    | none =>
      match config.builders.lookup column.type with
      | some builder => mappedField config table column builder
      | none => { outcome := .error (.missingTypeMapping table column.name column.type) }

end EntSchema.Schema
