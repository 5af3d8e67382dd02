import FilterQuery.Expr.Basic

/-!
# Equality of expressions

Two expressions are equal as a caller sees it if they have the same form and
equal parts, where numbers are compared as numbers and dates as instants.
This is coarser than `=` on zeros and offsets, and a NaN is not even equal to
itself.
-/

namespace FilterQuery

/-- Equality of dates: the same instant, whatever its offset. -/
def ZonedTime.isEqual (s t : ZonedTime) : Bool := decide (s.instant = t.instant)

/-- Equality of expressions. -/
def Expr.isEqual : Expr → Expr → Bool
  | .identifier a p, .identifier b q => decide (a = b ∧ p = q)
  | .string a p, .string b q => decide (a = b ∧ p = q)
  | .number a p, .number b q => a.isEqual b && decide (p = q)
  | .date a p, .date b q => a.isEqual b && decide (p = q)
  | .glob a p, .glob b q => decide (a = b ∧ p = q)
  | .regex a p, .regex b q => decide (a.source = b.source ∧ p = q)
  | .unary f a, .unary g b => decide (f = g) && a.isEqual b
  | .binary f a b, .binary g c d => decide (f = g) && a.isEqual c && b.isEqual d
  | .paren a, .paren b => a.isEqual b
  | _, _ => false

end FilterQuery
