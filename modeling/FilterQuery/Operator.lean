import FilterQuery.FieldType
import FilterQuery.Position

/-!
# Operators

The operators of a query: six plain comparisons, two pattern comparisons, two
connectives and a negation.
-/

namespace FilterQuery

/-- The meaning of an operator. -/
inductive OperatorKind where
  | eq | ne | lt | le | gt | ge
  | glob | regexp
  | and | or | not
  deriving DecidableEq, Repr, Inhabited

namespace OperatorKind

/-- Whether the operator matches a text against a pattern. -/
def isPattern : OperatorKind → Bool
  | glob | regexp => true
  | _ => false

/-- Whether the operator makes a truth value from two values. -/
def isComparison : OperatorKind → Bool
  | and | or | not => false
  | _ => true

/-- Whether the operator connects two truth values. -/
def isLogical : OperatorKind → Bool
  | and | or => true
  | _ => false

/-- Whether the operator stands before a single operand. -/
def isUnary : OperatorKind → Bool
  | not => true
  | _ => false

/-- Whether the operator stands between two operands. -/
def isBinary (k : OperatorKind) : Bool := k.isComparison || k.isLogical

/-- The operand types of an operator that restricts them, or nothing if the
operator takes every value type. -/
def allowedTypes? : OperatorKind → Option (List FieldType)
  | glob | regexp => some [.string]
  | _ => none

/-- The usual spelling in a query. -/
def text : OperatorKind → String
  | eq => "="
  | ne => "!="
  | lt => "<"
  | le => "<="
  | gt => ">"
  | ge => ">="
  | glob => "GLOB"
  | regexp => "REGEXP"
  | and => "AND"
  | or => "OR"
  | not => "NOT"

end OperatorKind

/-- An operator where it stands in a query, spelled as the query spells it. -/
structure Operator where
  token : String
  kind : OperatorKind
  pos : Position
  deriving DecidableEq, Repr, Inhabited

/-- The operator of a kind in its usual spelling. -/
def Operator.standard (kind : OperatorKind) (pos : Position) : Operator :=
  ⟨kind.text, kind, pos⟩

end FilterQuery
