import FilterQuery.Number
import FilterQuery.Operator
import FilterQuery.Regex.Basic
import FilterQuery.Zone.Basic

/-!
# Query expressions

The tree of a query.  A parser builds it from identifiers, numbers and quoted
strings; refinement replaces strings by dates, globs and regular expressions
where their place in the query asks for them.
-/

namespace FilterQuery

/-- A query or a part of one. -/
inductive Expr where
  /-- The name of a field. -/
  | identifier (name : String) (pos : Position)
  /-- A quoted text whose meaning depends on the comparison around it. -/
  | string (raw : String) (pos : Position)
  | number (value : Number) (pos : Position)
  | date (value : ZonedTime) (pos : Position)
  | glob (pattern : String) (pos : Position)
  | regex (value : Regex) (pos : Position)
  | unary (op : Operator) (operand : Expr)
  | binary (op : Operator) (lhs rhs : Expr)
  | paren (inner : Expr)
  deriving DecidableEq

namespace Expr

/-- Two expressions joined by an operator in its usual spelling. -/
def join (kind : OperatorKind) (pos : Position) (lhs rhs : Expr) : Expr :=
  .binary (.standard kind pos) lhs rhs

/-- The negation of an expression. -/
def negation (pos : Position) (operand : Expr) : Expr :=
  .unary (.standard .not pos) operand

/-- The position of the token that an expression starts with.  Parentheses
have none of their own. -/
def pos : Expr → Position
  | identifier _ pos | string _ pos | number _ pos | date _ pos | glob _ pos | regex _ pos => pos
  | unary op _ => op.pos
  | binary _ lhs _ => lhs.pos
  | paren inner => inner.pos

/-- The name of the form of an expression, as messages give it. -/
def formName : Expr → String
  | identifier _ _ => "Identifier"
  | string _ _ => "StringLiteral"
  | number _ _ => "NumberLiteral"
  | date _ _ => "DateLiteral"
  | glob _ _ => "GlobLiteral"
  | regex _ _ => "RegexLiteral"
  | unary _ _ => "UnaryExpression"
  | binary _ _ _ => "BinaryExpression"
  | paren _ => "ParenExpression"

/-- Whether the form of an expression can give a truth value. -/
def isLogical : Expr → Bool
  | unary _ _ | binary _ _ _ | paren _ => true
  | _ => false

end Expr

end FilterQuery
