/-!
# Hexadecimal digits
-/

namespace FilterQuery.Text.Hex

/-- The value of a hexadecimal digit, in either case. -/
def value? (c : Char) : Option Nat :=
  if c.isDigit then some (c.toNat - 48)
  else if 'a' ≤ c ∧ c ≤ 'f' then some (c.toNat - 87)
  else if 'A' ≤ c ∧ c ≤ 'F' then some (c.toNat - 55)
  else none

/-- Whether a character is a hexadecimal digit. -/
def isDigit (c : Char) : Bool := (value? c).isSome

/-- The number that hexadecimal digits spell. -/
def number (ds : List Char) : Nat :=
  ds.foldl (fun n c => 16 * n + (value? c).getD 0) 0

/-- The hexadecimal digits of a number, in small letters. -/
def digits (n : Nat) : List Char := Nat.toDigits 16 n

end FilterQuery.Text.Hex
