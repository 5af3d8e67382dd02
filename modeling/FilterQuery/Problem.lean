import FilterQuery.Operator

/-!
# Problems

What can be wrong with a query, and the words in which it is reported.
-/

namespace FilterQuery

open Text

/-- An operand of a binary expression. -/
inductive Side where
  | lhs
  | rhs
  deriving DecidableEq, Repr, Inhabited

/-- The side as messages name it. -/
def Side.text : Side → String
  | lhs => "LHS"
  | rhs => "RHS"

/-- Where an operator stands, by the word that messages have for it. -/
structure OperatorPlace where
  text : String
  deriving DecidableEq, Repr, Inhabited

namespace OperatorPlace

/-- Before a single operand. -/
def unary : OperatorPlace := ⟨"unary"⟩

/-- Between two operands. -/
def binary : OperatorPlace := ⟨"binary"⟩

end OperatorPlace

/-- The broad kinds of problems. -/
inductive ProblemKind where
  /-- The query has a form that cannot give a truth value. -/
  | structural
  /-- A field is not in the schema. -/
  | unresolvedField
  /-- A truth value stands where a value is expected, or a value where a truth
  value is. -/
  | typeMismatch
  /-- A text is no date or no regular expression. -/
  | literalConversion
  /-- An operator does not take operands of this type. -/
  | operandTypeRestriction
  deriving DecidableEq, Repr, Inhabited

/-- A problem with a query. -/
inductive Problem where
  /-- The whole query is of a form that cannot give a truth value. -/
  | notLogical (form : String)
  | unknownField (pos : Position) (name : String)
  | parenNotBoolean (pos : Position)
  | negationNotBoolean (pos : Position)
  | connectiveNotBoolean (pos : Position)
  | comparisonOfBoolean (pos : Position)
  | misplacedOperator (pos : Position) (token : String) (place : OperatorPlace)
  /-- A text is no date; the two patterns are given by their descriptions. -/
  | invalidDate (pos : Position) (raw dateFormat dateTimeFormat : String)
  | invalidRegex (pos : Position) (raw reason : String)
  | invalidOperand (pos : Position) (side : Side) (actual : FieldType) (allowed : List FieldType)
  deriving DecidableEq, Repr

namespace Problem

/-- The position of a problem.  Only a problem with the whole query has
none. -/
def pos? : Problem → Option Position
  | notLogical _ => none
  | unknownField p _ | parenNotBoolean p | negationNotBoolean p | connectiveNotBoolean p
  | comparisonOfBoolean p | misplacedOperator p _ _ | invalidDate p _ _ _ | invalidRegex p _ _
  | invalidOperand p _ _ _ => some p

/-- The kind of a problem. -/
def kind : Problem → ProblemKind
  | notLogical _ => .structural
  | unknownField _ _ => .unresolvedField
  | parenNotBoolean _ | negationNotBoolean _ | connectiveNotBoolean _ | comparisonOfBoolean _
  | misplacedOperator _ _ _ => .typeMismatch
  | invalidDate _ _ _ _ | invalidRegex _ _ _ => .literalConversion
  | invalidOperand _ _ _ _ => .operandTypeRestriction

/-- What a problem is, without its position. -/
def description : Problem → String
  | notLogical form => "Expected logical expression but received expression of type " ++ form
  | unknownField _ name => "Invalid field: " ++ name
  | parenNotBoolean _ => "Expression in parentheses must resolve to a boolean value"
  | negationNotBoolean _ =>
    "NOT operator can only be applied to expressions that resolve to a boolean value"
  | connectiveNotBoolean _ => "Operands of a logical operator must resolve to boolean values"
  | comparisonOfBoolean _ => "Comparison expressions must compare value types"
  | misplacedOperator _ token place =>
    "Invalid operator " ++ token ++ " in " ++ place.text ++ " expression"
  | invalidDate _ raw dateFormat dateTimeFormat =>
    "Invalid date: " ++ raw ++ ". Format must be either " ++ dateFormat ++ " or " ++ dateTimeFormat
  | invalidRegex _ raw reason => "Invalid regex " ++ raw ++ ": " ++ reason
  | invalidOperand _ side actual allowed =>
    "Argument on " ++ side.text ++ " has invalid type: " ++ actual.name ++
      ". Allowed types are: " ++ ", ".intercalate (allowed.map FieldType.name)

/-- The message for a problem: its position, if it has one, and its
description. -/
def message (p : Problem) : String :=
  match p.pos? with
  | none => p.description
  | some pos => pos.text ++ ": " ++ p.description

end Problem

end FilterQuery
