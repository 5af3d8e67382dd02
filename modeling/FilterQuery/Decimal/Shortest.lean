import FilterQuery.Text.Numeral

/-!
# Shortest decimals

A number that stands for all reals of an interval is printed with as few
digits as the interval allows.  `Interval` is such a number with its
interval, and `Interval.shortest` is the decimal: the coarsest power of ten
with a multiple inside the interval, and of two such multiples next to the
number the nearer one.  `Decimal.positional` writes a decimal without an
exponent, and `Decimal.scientific` one with a single digit before the point.
-/

namespace FilterQuery

open Text

/-- The number `coefficient * 10 ^ exponent`. -/
structure Decimal where
  coefficient : Nat
  exponent : Int
  deriving DecidableEq, Repr, Inhabited

/-- The digits of a decimal in place, without an exponent and without zeros
at the end of its fraction. -/
def Decimal.positional (d : Decimal) : List Char :=
  match d.exponent with
  | .ofNat zeros => Numeral.digits (d.coefficient * Nat.pow 10 zeros)
  | .negSucc n =>
    let places := n + 1
    let whole := Numeral.digits (d.coefficient / Nat.pow 10 places)
    let fraction := Numeral.padded places (d.coefficient % Nat.pow 10 places)
    match (fraction.reverse.dropWhile (· == '0')).reverse with
    | [] => whole
    | kept => whole ++ '.' :: kept

namespace Decimal

/-- The digits of a decimal without zeros at its end, and how many of them
stand before the point. -/
def significant (d : Decimal) : List Char × Int :=
  let digits := Numeral.digits d.coefficient
  ((digits.reverse.dropWhile (· == '0')).reverse, digits.length + d.exponent)

/-- A decimal with one digit before the point and an exponent with a sign. -/
def scientific (d : Decimal) : List Char :=
  let (digits, point) := d.significant
  let e := point - 1
  let fraction := if digits.length ≤ 1 then [] else '.' :: digits.drop 1
  digits.take 1 ++ fraction ++ 'e' :: (if e < 0 then '-' else '+') :: Numeral.digits e.natAbs

/-- Which of two decimals at the same distance from a number is taken. -/
inductive Tie where
  | up
  | toEven
  deriving DecidableEq, Repr, Inhabited

/-- A positive number `value / scale` between the ends `lower / scale` and
`upper / scale` of the interval it stands for. -/
structure Interval where
  lower : Nat
  value : Nat
  upper : Nat
  scale : Nat
  /-- Whether the ends belong to the interval. -/
  closed : Bool
  deriving DecidableEq, Repr

namespace Interval

/-- How many digits stand before the decimal point, or for a number below one
minus the number of zeros after the point. -/
def magnitude (t : Interval) : Int :=
  if t.scale ≤ t.value then (Numeral.digits (t.value / t.scale)).length
  else
    let inverse := (t.scale + t.value - 1) / t.value
    1 - (Numeral.digits (inverse - 1)).length

/-- Whether the multiple `q` of the grid `step / unit` lies in the
interval. -/
def holds (t : Interval) (step unit q : Nat) : Bool :=
  if t.closed then
    decide (t.lower * unit ≤ q * step) && decide (q * step ≤ t.upper * unit)
  else
    decide (t.lower * unit < q * step) && decide (q * step < t.upper * unit)

/-- The multiple of `10 ^ exponent` in the interval that is next to the
number. -/
def onGrid? (t : Interval) (tie : Tie) (exponent : Int) : Option Decimal :=
  let step := t.scale * Nat.pow 10 exponent.toNat
  let unit := Nat.pow 10 (-exponent).toNat
  let below := t.value * unit / step
  match t.holds step unit below, t.holds step unit (below + 1) with
  | true, false => some ⟨below, exponent⟩
  | false, true => some ⟨below + 1, exponent⟩
  | true, true =>
    let twice := 2 * (t.value * unit)
    let middle := (2 * below + 1) * step
    if twice < middle ∨ (twice = middle ∧ tie = .toEven ∧ below % 2 = 0) then
      some ⟨below, exponent⟩
    else some ⟨below + 1, exponent⟩
  | false, false => none

/-- Tries ever finer grids, at most `tries` of them. -/
def search (t : Interval) (tie : Tie) : Nat → Int → Decimal
  | 0, exponent =>
    let step := t.scale * Nat.pow 10 exponent.toNat
    ⟨t.value * Nat.pow 10 (-exponent).toNat / step, exponent⟩
  | tries + 1, exponent => (t.onGrid? tie exponent).getD (t.search tie tries (exponent - 1))

/-- The decimal with the fewest digits in the interval.  Seventeen digits
tell all doubles apart, so the search needs no more. -/
def shortest (t : Interval) (tie : Tie) : Decimal := t.search tie 17 (t.magnitude - 1)

end Interval

end Decimal

end FilterQuery
