import EntSchema.Json.Printer
import EntSchema.Json.Size
import EntSchema.ParseTree.Node
import EntSchema.Relational.Default
import EntSchema.Text.Placeholder

/-!
# Default expressions

A `DEFAULT` expression as the parse tree gives it, a tag and a body, and the value that it stands
for. Four kinds are supported: constants, function calls, keyword functions, and casts of these to
any depth. A cast looks at what it casts first, so of several defects the innermost is reported.
-/

namespace EntSchema.ParseTree

open Relational (DefaultValue)

/-- The keyword functions by their code. A placeholder stands for the precision. -/
def keywordTemplates : List String :=
  ["CURRENT_DATE", "CURRENT_TIME", "CURRENT_TIME(%s)", "CURRENT_TIMESTAMP",
    "CURRENT_TIMESTAMP(%s)", "LOCALTIME", "LOCALTIME(%s)", "LOCALTIMESTAMP", "LOCALTIMESTAMP(%s)"]

/-- The keyword function with a code. -/
def keywordTemplate? (code : Int) : Option String :=
  if 0 ≤ code then keywordTemplates[code.toNat]? else none

/-- A constant: its kind is the tag of the value, its text the source text of the last field. -/
def resolveConstant (body : Json) : Except ParseError DefaultValue := do
  let (kind, scalar) ← requireTagged body "val"
  let text := match scalar.lastField? with
    | some field => field.render
    | none => ""
  return .literal kind text

/-- A function call, by the last part of the function's name. -/
def resolveCall (body : Json) : Except ParseError DefaultValue := do
  let function ← requireLastName body "funcname"
  return .call function

/-- A keyword function with its precision, if it has one. -/
def resolveKeyword (body : Json) : Except ParseError DefaultValue := do
  let code ← require body "op"
  match code.int64?.bind keywordTemplate? with
  | none => .error (.unsupportedValueFunction code.render)
  | some template =>
    let precision := match (body.get? "typmod").bind Json.int64? with
      | some n => toString n
      | none => ""
    return .keyword (Text.fill template precision)

/-- The value of a default expression with a given tag and body. -/
def resolveDefault (tag : String) (body : Json) : Except ParseError DefaultValue :=
  if tag = "A_Const" then resolveConstant body
  else if tag = "FuncCall" then resolveCall body
  else if tag = "TypeCast" then
    match _hArg : body.get? "arg" with
    | none => .error (.missingField "arg")
    | some arg =>
      match _hTag : arg.tagged? with
      | none => .error (.missingField "arg")
      | some (innerTag, inner) => do
        let value ← resolveDefault innerTag inner
        let type ← typeName (← require body "typeName")
        return .cast value type
  else if tag = "SQLValueFunction" then resolveKeyword body
  else .error (.unsupportedExpression tag)
termination_by sizeOf body
decreasing_by
  have := Json.sizeOf_lt_of_get? _hArg
  have := Json.sizeOf_lt_of_tagged? _hTag
  omega

end EntSchema.ParseTree
