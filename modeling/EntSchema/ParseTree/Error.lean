/-!
# Why a parse tree is refused

The walk over a parse tree stops at the first statement that it cannot apply. An error holds the
cause; `ParseError.message` is its wording.
-/

namespace EntSchema.ParseTree

/-- What a statement was about to do when a table or column that it names was missing. -/
inductive Purpose where
  | createIndex
  | setPrimaryKey
  | setForeignKey
  | setUniqueConstraint
  deriving DecidableEq, Repr, Inhabited

/-- The purpose in words. -/
def Purpose.text : Purpose → String
  | createIndex => "create index"
  | setPrimaryKey => "set primary key"
  | setForeignKey => "set foreign key"
  | setUniqueConstraint => "set unique constraint"

/-- Why a parse tree is refused. -/
inductive ParseError where
  /-- The document is not JSON. -/
  | invalidJson
  /-- The value at `path`, counted from its statement, is absent or empty. -/
  | missingField (path : String)
  /-- A default expression is of a kind that is not supported. -/
  | unsupportedExpression (kind : String)
  /-- A keyword function has no known code; `code` is the source text of what stands there. -/
  | unsupportedValueFunction (code : String)
  /-- No table of that name was created before. -/
  | unknownTable (table : String) (purpose : Purpose)
  /-- The table declares no column of that name before. -/
  | unknownColumn (table column : String) (purpose : Purpose)
  deriving DecidableEq, Repr, Inhabited

/-- The wording of an error. -/
def ParseError.message : ParseError → String
  | invalidJson => "invalid parse tree JSON:"
  | missingField path => "parse tree is missing `" ++ path ++ "`"
  | unsupportedExpression kind => "unsupported default expression `" ++ kind ++ "`"
  | unsupportedValueFunction code => "SQLValueFunction op " ++ code ++ " is not supported"
  | unknownTable table purpose => "cannot find table `" ++ table ++ "` to " ++ purpose.text
  | unknownColumn table column purpose =>
    "cannot find column `" ++ column ++ "` in table `" ++ table ++ "` to " ++ purpose.text

end EntSchema.ParseTree
