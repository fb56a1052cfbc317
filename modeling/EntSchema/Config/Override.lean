import EntSchema.Config.Basic
import EntSchema.Relational.Table

/-!
# Which override a column gets

A property of a column is a text, a flag, or a presence: whether the column has a foreign key or a
default value at all. A text equals a text and a flag or presence equals a flag; a missing
expectation holds of an absent property only. Anything else does not match.
-/

namespace EntSchema.Config

open Relational (Column)

/-- The value of a property. -/
inductive PropertyValue where
  | text (value : String)
  | flag (value : Bool)
  | present (value : Bool)
  deriving DecidableEq, Repr, Inhabited

/-- The value of a property of a column. -/
def Property.read (column : Column) : Property → PropertyValue
  | name => .text column.name
  | type => .text column.type
  | isPrimary => .flag column.isPrimary
  | isNotNull => .flag column.isNotNull
  | isUnique => .flag column.isUnique
  | foreignKey => .present column.foreignKey.isSome
  | default => .present column.default.isSome

/-- Whether a value is the expected one. -/
def PropertyValue.agrees : PropertyValue → Option Expected → Bool
  | text actual, some (.text expected) => actual == expected
  | flag actual, some (.flag expected) => actual == expected
  | present actual, some (.flag expected) => actual == expected
  | present actual, none => !actual
  | _, _ => false

/-- Whether a condition holds of a column. -/
def Matcher.holds (column : Column) (matcher : Matcher) : Bool :=
  (matcher.property.read column).agrees matcher.expected

/-- Whether all conditions of a rule hold of a column. -/
def Override.holds (column : Column) (rule : Override) : Bool :=
  rule.matchers.all (·.holds column)

/-- The first of some rules that holds of a column. -/
def firstOverride? (rules : List Override) (column : Column) : Option Override :=
  rules.find? (·.holds column)

end EntSchema.Config
