import FilterQuery.Text.Numeral

/-!
# Positions

The place of a token in the text of a query.
-/

namespace FilterQuery

open Text

/-- A line and a column, both counted from one in a query text.  The type
itself admits zero: a caller that cannot vouch for its coordinates asks
`Position.ofCoordinates?`. -/
structure Position where
  line : Nat
  column : Nat
  deriving DecidableEq, Repr

namespace Position

/-- The first character of a query. -/
def start : Position := ⟨1, 1⟩

instance : Inhabited Position := ⟨start⟩

/-- The position at a line and a column, if both count from one. -/
def ofCoordinates? (line column : Nat) : Option Position :=
  if 1 ≤ line ∧ 1 ≤ column then some ⟨line, column⟩ else none

/-- Reading order: by line, and within a line by column. -/
def order (p q : Position) : Ordering :=
  (compare p.line q.line).then (compare p.column q.column)

/-- The position as messages show it. -/
def text (p : Position) : String :=
  Numeral.text p.line ++ ":" ++ Numeral.text p.column

end Position

end FilterQuery
