import Std.Data.HashMap

/-!
# Remembered states

States with the same links need not be added twice.  A memo remembers states
by their links in a fixed number of slots; in each slot a newer state takes the
place of an older one.
-/

namespace FilterQuery.Regex

/-- A number that depends on all numbers of a list: each is mixed into the
lower bits, which a product with a prime spreads. -/
def mixed (ns : List Nat) : UInt64 :=
  ns.foldl (fun h n => (h ^^^ UInt64.ofNat n) * 1099511628211) 14695981039346656037

/-- States by the numbers that describe them. -/
structure Memo where
  slots : Nat
  entries : Std.HashMap Nat (List Nat × Nat) := {}

namespace Memo

/-- The slot of a key. -/
def slot (m : Memo) (key : List Nat) : Nat := (mixed key).toNat % m.slots

/-- The state that is remembered for a key. -/
def find? (m : Memo) (key : List Nat) : Option Nat :=
  match m.entries.get? (m.slot key) with
  | some (other, state) => if other = key then some state else none
  | none => none

/-- Remembers a state. -/
def insert (m : Memo) (key : List Nat) (state : Nat) : Memo :=
  { m with entries := m.entries.insert (m.slot key) (key, state) }

end Memo

end FilterQuery.Regex
