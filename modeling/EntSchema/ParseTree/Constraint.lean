import EntSchema.Json.Path

/-!
# Constraints of a parse tree

A constraint node carries the kind of constraint as a number. Five kinds change a table; the rest
(`NULL`, `CHECK`, `EXCLUDE`, identity columns and so on) say nothing that the model keeps.
-/

namespace EntSchema.ParseTree

/-- The constraints that change a table. -/
inductive ConstraintKind where
  | notNull
  | default
  | primaryKey
  | unique
  | foreignKey
  deriving DecidableEq, Repr, Inhabited

namespace ConstraintKind

/-- The kind with a code; absent for codes that change nothing. -/
def ofCode? : Int → Option ConstraintKind
  | 1 => some notNull
  | 2 => some default
  | 5 => some primaryKey
  | 6 => some unique
  | 8 => some foreignKey
  | _ => none

/-- The kind of a constraint node. -/
def ofNode? (constraint : Json) : Option ConstraintKind :=
  ((constraint.get? "contype").bind Json.int64?).bind ofCode?

end ConstraintKind

end EntSchema.ParseTree
