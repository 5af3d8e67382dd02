import FilterQuery.Expr.Equality
import FilterQuery.Refinement

/-!
# Sessions

A session holds a table of fields, settings and a query that is built up and
refined in steps.
-/

namespace FilterQuery

/-- The state of a session. -/
structure Session where
  fields : FieldTable := .empty
  settings : Settings := .standard
  /-- The query that the session works on. -/
  query? : Option Expr := none

namespace Session

/-- A larger query around the current one. -/
inductive Wrapping where
  | paren
  | negation (pos : Position)
  /-- The current query becomes the left operand. -/
  | binary (op : Operator) (rhs : Expr)

/-- The query inside of a wrapping. -/
def Wrapping.apply (query : Expr) : Wrapping → Expr
  | paren => .paren query
  | negation pos => .negation pos query
  | binary op rhs => .binary op query rhs

/-- A step of a session. -/
inductive Step where
  | define (name : String) (type : FieldType)
  | undefine (name : String)
  | lookup (name : String)
  | configure (settings : Settings)
  | load (query : Expr)
  | wrap (wrapping : Wrapping)
  | process

/-- The answer to a step. -/
inductive Answer where
  /-- The type that a field had before the step. -/
  | previous (type? : Option FieldType)
  | fieldType (type? : Option FieldType)
  | settings (settings : Settings)
  | query (query : Expr)
  /-- The outcome, and whether refinement changed the query. -/
  | processed (outcome : Outcome) (changed : Bool)
  /-- The step needs a query and there is none. -/
  | noQuery

/-- Takes a step in a zone. -/
def step (zone : Zone) (s : Session) : Step → Session × Answer
  | .define name type =>
    ({ s with fields := s.fields.define name type }, .previous (s.fields.lookup? name))
  | .undefine name =>
    ({ s with fields := s.fields.undefine name }, .previous (s.fields.lookup? name))
  | .lookup name => (s, .fieldType (s.fields.lookup? name))
  | .configure settings => ({ s with settings }, .settings settings)
  | .load query => ({ s with query? := some query }, .query query)
  | .wrap wrapping =>
    match s.query? with
    | none => (s, .noQuery)
    | some query =>
      let query := wrapping.apply query
      ({ s with query? := some query }, .query query)
  | .process =>
    match s.query? with
    | none => (s, .noQuery)
    | some query =>
      let outcome := Context.process ⟨s.fields.schema, s.settings, zone⟩ query
      ({ s with query? := some outcome.expr },
        .processed outcome (!outcome.expr.isEqual query))

/-- Takes steps one after the other and collects the answers. -/
def run (zone : Zone) (s : Session) : List Step → List Answer
  | [] => []
  | step :: steps =>
    let (s, answer) := s.step zone step
    answer :: run zone s steps

end Session

end FilterQuery
