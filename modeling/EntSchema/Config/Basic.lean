/-!
# The generation settings

What a user configures: which builder a column type gets, how a builder is refined, and rules that
replace the declaration of some columns altogether. `%s` in a template is the name of the column.
-/

namespace EntSchema.Config

/-- A property of a column that a rule can look at. -/
inductive Property where
  | name
  | type
  | isPrimary
  | isNotNull
  | isUnique
  /-- Whether there is a foreign key. -/
  | foreignKey
  /-- Whether there is a default value. -/
  | default
  deriving DecidableEq, Repr, Inhabited

/-- What a property is compared with. -/
inductive Expected where
  | flag (value : Bool)
  | text (value : String)
  deriving DecidableEq, Repr, Inhabited

/-- A condition on one property. Without an expected value the property has to be absent. -/
structure Matcher where
  property : Property
  expected : Option Expected := none
  deriving DecidableEq, Repr, Inhabited

/-- A rule that replaces the declaration of the columns for which all of its matchers hold. -/
structure Override where
  name : String
  matchers : List Matcher := []
  template : String
  imports : List String := []
  deriving DecidableEq, Repr, Inhabited

/-- What is added whenever a builder is chosen. -/
structure Refinement where
  /-- A template in place of the builder. -/
  builder : Option String := none
  imports : List String := []
  goType : Option String := none
  schemaType : Option String := none
  /-- A template in place of the usual one for default values. -/
  defaultTemplate : Option String := none
  deriving DecidableEq, Repr, Inhabited

/-- Switches that concern all tables. -/
structure Switches where
  /-- No default values are declared. -/
  noDefault : Bool := false
  /-- The names of columns that never change, as a sorted set. -/
  immutableColumns : List String := []
  deriving DecidableEq, Repr, Inhabited

end EntSchema.Config

namespace EntSchema

open Config in
/-- The generation settings. -/
structure Config where
  /-- The parse tree to read when the command line names none. -/
  parseTree : Option String := none
  /-- Where the schema files go when the command line does not say. -/
  outDir : Option String := none
  /-- Whether the written files are formatted. -/
  format : Bool := false
  switches : Switches := {}
  /-- The builder of a column type, as a sorted map. -/
  builders : List (String × String) := []
  /-- The refinement of a builder, as a sorted map. -/
  refinements : List (String × Refinement) := []
  /-- The overrides, of which the first that matches a column counts. -/
  overrides : List Override := []
  deriving DecidableEq, Repr, Inhabited

end EntSchema
