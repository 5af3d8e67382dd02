import FilterQuery.Zone.Basic

/-!
# Zones from a table

A zone given by the offset at the beginning of time and by the seconds at
which it changes.
-/

namespace FilterQuery

/-- A change of the offset, in force from its second on. -/
structure Transition where
  second : Int
  offset : Int
  deriving DecidableEq, Repr, Inhabited

/-- An offset and the changes after it, in the order of their seconds. -/
structure ZoneTable where
  initial : Int
  transitions : List Transition
  deriving DecidableEq, Repr, Inhabited

namespace ZoneTable

/-- The offset of the last change at or before a second. -/
def offsetAt (t : ZoneTable) (second : Int) : Int :=
  t.transitions.foldl (fun offset c => if c.second ≤ second then c.offset else offset) t.initial

/-- Every offset of the table. -/
def offsets (t : ZoneTable) : List Int := t.initial :: t.transitions.map (·.offset)

/-- A fold that replaces an offset by later ones ends in one of them. -/
theorem foldl_mem (second : Int) (changes : List Transition) (offset : Int) :
    changes.foldl (fun offset c => if c.second ≤ second then c.offset else offset) offset ∈
      offset :: changes.map (·.offset) := by
  induction changes generalizing offset with
  | nil => simp
  | cons c changes ih =>
    rw [List.foldl_cons]
    have h := ih (if c.second ≤ second then c.offset else offset)
    simp only [List.mem_cons, List.map_cons] at h ⊢
    rcases h with h | h
    · rw [h]
      split
      · exact Or.inr (Or.inl rfl)
      · exact Or.inl rfl
    · exact Or.inr (Or.inr h)

/-- The zone of a table.  Of the instants with the same wall time it means
the earliest. -/
def zone (t : ZoneTable) : Zone where
  offsetAt := t.offsetAt
  offsets := t.offsets
  repetition := .earliest
  offsetAt_mem second := foldl_mem second t.transitions t.initial

end ZoneTable

end FilterQuery
