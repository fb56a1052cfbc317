/-!
# Default values of columns

What a column's `DEFAULT` says, as far as the generator uses it: a constant, a call of a function
(the arguments are not kept), a keyword such as `CURRENT_TIMESTAMP(3)`, or a cast of one of these.
-/

namespace EntSchema.Relational

/-- The value of a `DEFAULT` expression. -/
inductive DefaultValue where
  /-- A constant: `kind` names the kind of scalar, `text` is its source text. -/
  | literal (kind text : String)
  /-- A function call, by the name of the function. -/
  | call (function : String)
  /-- Another value cast to a type. -/
  | cast (inner : DefaultValue) (type : String)
  /-- A keyword that the database evaluates. -/
  | keyword (text : String)
  deriving DecidableEq, Repr, Inhabited

namespace DefaultValue

/-- The kind of a constant that is `NULL`. -/
def nullKind : String := "Null"

/-- The text of the innermost value, without any cast. -/
def literalText : DefaultValue → String
  | literal _ text => text
  | call function => function
  | cast inner _ => inner.literalText
  | keyword text => text

/-- The type that the value is declared with. -/
def declaredType : DefaultValue → String
  | literal kind _ => kind
  | call _ => "Func"
  | cast _ type => type
  | keyword _ => "SQLValueFunction"

/-- The expression that the database has to evaluate itself: a call or a keyword. -/
def rawSql? : DefaultValue → Option String
  | call function => some (function ++ "()")
  | keyword text => some text
  | literal _ _ => none
  | cast _ _ => none

/-- Whether the value is `NULL`, under any number of casts. -/
def isNull : DefaultValue → Bool
  | literal kind _ => kind == nullKind
  | cast inner _ => inner.isNull
  | call _ => false
  | keyword _ => false

end DefaultValue

end EntSchema.Relational
