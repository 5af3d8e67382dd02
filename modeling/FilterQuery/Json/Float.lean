import FilterQuery.Json.Value
import FilterQuery.Number

/-!
# Numbers in JSON texts

How a decimal of a JSON text becomes a floating-point number, and how such a
number is shown.  Reading is not exact: the digits are read as a whole number
of at most 64 bits, digits for which there is no room are dropped, and the
whole number is scaled by a power of ten.  Each of these steps is rounded, so
that `123e23` becomes `1.2299999999999998e+25`.
-/

namespace FilterQuery.Json

/-! ## Reading -/

/-- The value of a decimal digit. -/
def digitValue (c : Char) : Nat := c.toNat - '0'.toNat

/-- Whether a number has room for one more digit in 64 bits. -/
def hasRoom (value digit : Nat) : Bool := decide (10 * value + digit < Nat.pow 2 64)

/-- Reads digits before the decimal point, as long as there is room for them.
Returns how many are left over, too. -/
def takeWhole : Nat → List Char → Nat × Nat
  | value, [] => (value, 0)
  | value, c :: rest =>
    if hasRoom value (digitValue c) then takeWhole (10 * value + digitValue c) rest
    else (value, rest.length + 1)

/-- Reads digits after the decimal point, as long as there is room for them.
Returns how many were read, too. -/
def takeFraction : Nat → List Char → Nat × Nat
  | value, [] => (value, 0)
  | value, c :: rest =>
    if hasRoom value (digitValue c) then
      let r := takeFraction (10 * value + digitValue c) rest
      (r.1, r.2 + 1)
    else (value, 0)

/-- The greatest power of ten that a number is scaled by in one step. -/
def maxPower : Nat := 308

/-- Scales a number by a power of ten, in at most `steps` steps, or nothing if
it becomes too large. -/
def scale? (x : Number) : Nat → Int → Option Number
  | 0, _ => some x
  | steps + 1, exponent =>
    if exponent.natAbs ≤ maxPower then
      if 0 ≤ exponent then x.mul? (Number.powerOfTen exponent.natAbs)
      else x.div? (Number.powerOfTen exponent.natAbs)
    else if x.isZero then some x
    else if 0 ≤ exponent then none
    else
      match x.div? (Number.powerOfTen maxPower) with
      | some y => scale? y steps (exponent + maxPower)
      | none => none

/-- The floating-point number that a decimal is read as, or nothing if it is
too large.  Two steps of scaling leave nothing of any whole number of 64
bits, so three are enough. -/
def Numeral.float? (n : Numeral) : Option Number :=
  let whole := takeWhole 0 n.whole
  let fraction := takeFraction whole.1 (n.fraction?.getD [])
  let exponent := n.exponent?.getD 0 + whole.2 - fraction.2
  (Number.ofRatio? n.negative fraction.1 1).bind fun x => scale? x 3 exponent

/-! ## Showing -/

/-- The places of the decimal point, counted in digits before it, at which a
number is shown without an exponent. -/
def hasPlainText (point : Int) : Bool := decide (-5 < point ∧ point ≤ 16)

/-- A finite number as messages show it: the fewest digits that read back to
it, always with a fraction or an exponent. -/
def floatText (x : Number) : List Char :=
  let sign := if x.isNegative then ['-'] else []
  if x.isZero then sign ++ ['0', '.', '0']
  else
    let d := x.interval.shortest .toEven
    if hasPlainText d.significant.2 then
      let plain := d.positional
      sign ++ plain ++ if plain.contains '.' then [] else ['.', '0']
    else sign ++ d.scientific

end FilterQuery.Json
