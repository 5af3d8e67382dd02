import FilterQuery.DateText
import FilterQuery.Expr.Basic
import FilterQuery.Text.Quoted

/-!
# The text of expressions

An expression as a query text.  Literals are quoted, except numbers; a date
is written as local time in the standard pattern.
-/

namespace FilterQuery

open Text

/-- The text of an expression. -/
def Expr.text : Expr → String
  | .identifier name _ => name
  | .string raw _ => Quoted.quote raw
  | .number value _ => value.text
  | .date value _ => Quoted.quote value.queryText
  | .glob pattern _ => Quoted.quote pattern
  | .regex value _ => Quoted.quote value.source
  | .unary op operand => op.token ++ " " ++ operand.text
  | .binary op lhs rhs => lhs.text ++ " " ++ op.token ++ " " ++ rhs.text
  | .paren inner => "(" ++ inner.text ++ ")"

end FilterQuery
