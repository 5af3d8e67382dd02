/-!
# The size of an automaton

A pattern is compiled to an automaton whose states are linked by bytes.  Only
the size of the automaton is of interest here: a `Draft` counts the states
added so far and the memory for their links.  A draft that grows beyond the
limit is given up.
-/

namespace FilterQuery.Regex

/-- The largest automaton, in bytes. -/
def sizeLimit : Nat := 10 * Nat.pow 2 20

/-- The memory for one state. -/
def stateBytes : Nat := 32

/-- The memory for a link on a range of bytes. -/
def linkBytes : Nat := 8

/-- The memory for a link on no byte. -/
def jumpBytes : Nat := 4

/-- An automaton under construction.  Its states are numbered from zero in the
order in which they are added. -/
structure Draft where
  states : Nat := 0
  memory : Nat := 0
  deriving DecidableEq, Repr, Inhabited

namespace Draft

/-- The size of an automaton. -/
def size (d : Draft) : Nat := stateBytes * d.states + d.memory

/-- The automaton with further states, and further memory for links. -/
def grow? (d : Draft) (states : Nat) (memory : Nat := 0) : Option Draft :=
  let larger : Draft := ⟨d.states + states, d.memory + memory⟩
  if larger.size ≤ sizeLimit then some larger else none

/-- Takes a step several times, as long as it succeeds. -/
def iterate? (step : Draft → Option Draft) : Nat → Draft → Option Draft
  | 0, d => some d
  | n + 1, d =>
    match step d with
    | some d => iterate? step n d
    | none => none

/-- A draft is within the limit, or it is given up. -/
theorem size_le_of_grow? {d e : Draft} {states memory : Nat}
    (h : d.grow? states memory = some e) : e.size ≤ sizeLimit := by
  simp only [grow?] at h
  split at h
  · cases h
    assumption
  · cases h

end Draft

end FilterQuery.Regex
