import FilterQuery.Conversion
import FilterQuery.Event
import FilterQuery.Expr.Printer

/-!
# Refinement

A query is checked and refined from its leaves up.  Identifiers get their
types from the schema, string literals become dates, globs or regular
expressions where the comparison around them asks for it, and each operator
is checked against the types of its operands.  No problem stops the walk, so
a caller sees all of them: those of operands before those of their operator,
and those on the left before those on the right.
-/

namespace FilterQuery

/-- What a query is refined against. -/
structure Context where
  schema : Schema
  settings : Settings := .standard
  /-- The zone in which dates without an offset are read. -/
  zone : Zone

/-- A refined expression, its type, and what happened on the way. -/
structure Refined where
  expr : Expr
  type : FieldType
  events : List Event
  deriving DecidableEq

namespace Context

/-! ## Literals -/

/-- Reads a string literal as a date.  Anything else stays as it is, and so
does a text that is no date. -/
def convertDate (ctx : Context) : Expr → Expr × List Event
  | .string raw pos =>
    match Conversion.toDate ctx.zone ctx.settings raw pos with
    | .ok value => (.date value pos, [.toDate pos raw value])
    | .error p => (.string raw pos, [.problem p])
  | e => (e, [])

/-- Reads a string literal as the pattern of an operator. -/
def convertPattern (kind : OperatorKind) : Expr → Expr × List Event
  | .string raw pos =>
    if kind = .glob then (.glob raw pos, [.toGlob pos raw])
    else
      match Conversion.toRegex raw pos with
      | .ok value => (.regex value pos, [.toRegex pos raw])
      | .error p => (.string raw pos, [.problem p])
  | e => (e, [])

/-- Whether an expression is a string literal. -/
def isStringLiteral : Expr → Bool
  | .string _ _ => true
  | _ => false

/-! ## Comparisons -/

/-- Checks an operand against the types that an operator allows.  An operand
without a value type has been reported already. -/
def checkOperand (op : Operator) (side : Side) (type : FieldType) : List Event :=
  match op.kind.allowedTypes? with
  | none => []
  | some allowed =>
    if type = .invalid ∨ type = .boolean ∨ type ∈ allowed then []
    else [.problem (.invalidOperand op.pos side type allowed)]

/-- Checks that both operands of a comparison have value types. -/
def checkValueTypes (op : Operator) (lhs rhs : FieldType) : List Event :=
  if lhs.isValueType && rhs.isValueType then [] else [.problem (.comparisonOfBoolean op.pos)]

/-- Converts the literals of a pattern comparison: the left operand if it is
the only string literal, and else the right one. -/
def refinePattern (op : Operator) (lhs rhs : Refined) : Expr × Expr × List Event :=
  if isStringLiteral lhs.expr && !isStringLiteral rhs.expr then
    let (e, events) := convertPattern op.kind lhs.expr
    (e, rhs.expr, events)
  else
    let (e, events) := convertPattern op.kind rhs.expr
    (lhs.expr, e, events)

/-- Converts the literals of a plain comparison: a string literal becomes a
date if the other operand is one. -/
def refinePlain (ctx : Context) (lhs rhs : Refined) : Expr × Expr × List Event :=
  let (l, levents) := if rhs.type = .date then ctx.convertDate lhs.expr else (lhs.expr, [])
  let (r, revents) := if lhs.type = .date then ctx.convertDate rhs.expr else (rhs.expr, [])
  (l, r, levents ++ revents)

/-- Checks a comparison and converts its literals. -/
def refineComparison (ctx : Context) (op : Operator) (lhs rhs : Refined) :
    Expr × Expr × List Event :=
  let (l, r, events) :=
    if op.kind.isPattern then refinePattern op lhs rhs else ctx.refinePlain lhs rhs
  (l, r, checkValueTypes op lhs.type rhs.type ++ checkOperand op .lhs lhs.type ++
    checkOperand op .rhs rhs.type ++ events)

/-! ## Expressions -/

/-- The type of a field, and the problem if there is no such field. -/
def resolve (ctx : Context) (name : String) (pos : Position) : FieldType × List Event :=
  match ctx.schema.typeOf? name with
  | some type => (type, [])
  | none => (.invalid, [.problem (.unknownField pos name)])

/-- Checks that an expression in parentheses is a truth value. -/
def checkParen (inner : Refined) : List Event :=
  if inner.type = .boolean then [] else [.problem (.parenNotBoolean inner.expr.pos)]

/-- Checks the operator and the operand of a unary expression. -/
def checkUnary (op : Operator) (operand : FieldType) : List Event :=
  if !op.kind.isUnary then [.problem (.misplacedOperator op.pos op.token .unary)]
  else if operand = .boolean then []
  else [.problem (.negationNotBoolean op.pos)]

/-- Checks that both operands of a connective are truth values. -/
def checkConnective (op : Operator) (lhs rhs : FieldType) : List Event :=
  if lhs = .boolean ∧ rhs = .boolean then [] else [.problem (.connectiveNotBoolean op.pos)]

/-- Checks a binary expression and converts its literals. -/
def refineBinary (ctx : Context) (op : Operator) (lhs rhs : Refined) :
    Expr × Expr × List Event :=
  if op.kind.isLogical then (lhs.expr, rhs.expr, checkConnective op lhs.type rhs.type)
  else if op.kind.isComparison then ctx.refineComparison op lhs rhs
  else (lhs.expr, rhs.expr, [.problem (.misplacedOperator op.pos op.token .binary)])

/-- Refines an expression, its operands first. -/
def refine (ctx : Context) : Expr → Refined
  | .identifier name pos =>
    let (type, events) := ctx.resolve name pos
    ⟨.identifier name pos, type, events⟩
  | .string raw pos => ⟨.string raw pos, .string, []⟩
  | .number value pos => ⟨.number value pos, .number, []⟩
  | .date value pos => ⟨.date value pos, .date, []⟩
  | .glob pattern pos => ⟨.glob pattern pos, .string, []⟩
  | .regex value pos => ⟨.regex value pos, .string, []⟩
  | .paren inner =>
    let r := ctx.refine inner
    ⟨.paren r.expr, .boolean, r.events ++ checkParen r⟩
  | .unary op operand =>
    let r := ctx.refine operand
    ⟨.unary op r.expr, .boolean, r.events ++ checkUnary op r.type⟩
  | .binary op lhs rhs =>
    let l := ctx.refine lhs
    let r := ctx.refine rhs
    let (lhs, rhs, events) := ctx.refineBinary op l r
    ⟨.binary op lhs rhs, .boolean, l.events ++ r.events ++ events⟩

end Context

/-! ## Queries -/

/-- The outcome of refining a query. -/
structure Outcome where
  /-- The refined query, or the query as it was if its form cannot give a
  truth value. -/
  expr : Expr
  /-- Every problem, in the order in which they are found. -/
  problems : List Problem
  /-- The lines of the log. -/
  log : List LogRecord
  deriving DecidableEq

/-- Whether a query has no problem. -/
def Outcome.isValid (o : Outcome) : Bool := o.problems.isEmpty

/-- The refined query if it has no problem, and else the problems. -/
def Outcome.toExcept (o : Outcome) : Except (List Problem) Expr :=
  if o.isValid then .ok o.expr else .error o.problems

namespace Context

/-- The outcome for a query of a form that cannot give a truth value. -/
def reject (query : Expr) : Outcome :=
  let p := Problem.notLogical query.formName
  ⟨query, [p], [⟨.debug, "Rejecting query: " ++ p.message⟩]⟩

/-- Refines a whole query. -/
def process (ctx : Context) (query : Expr) : Outcome :=
  if query.isLogical then
    let r := ctx.refine query
    let problems := r.events.filterMap Event.problem?
    let first : LogRecord := ⟨.debug, "Processing query: " ++ query.text⟩
    let last : LogRecord :=
      ⟨.debug, "Processed query with " ++ Text.Numeral.text problems.length ++ " error(s)"⟩
    ⟨r.expr, problems, first :: (r.events.map Event.record ++ [last])⟩
  else reject query

end Context

end FilterQuery
