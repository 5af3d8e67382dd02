import FilterQuery.Decimal.Shortest

/-!
# Numbers

The numbers of a query are binary floating-point numbers of 64 bits, kept by
their bits, so that equality of numbers (`Number.isEqual`, where a NaN differs
from itself and the two zeros are equal) and equality of bits (`=`) stay
apart.
-/

namespace FilterQuery

open Text

/-- A binary floating-point number of 64 bits: a sign, eleven bits of
exponent and 52 bits of fraction. -/
structure Number where
  bits : UInt64
  deriving DecidableEq, Repr, Inhabited

namespace Number

/-- Whether the sign bit is set. -/
def isNegative (x : Number) : Bool := decide (Nat.pow 2 63 ≤ x.bits.toNat)

/-- The eleven bits of the exponent, from 0 to 2047. -/
def biasedExponent (x : Number) : Nat := x.bits.toNat / Nat.pow 2 52 % Nat.pow 2 11

/-- The 52 bits of the fraction. -/
def fraction (x : Number) : Nat := x.bits.toNat % Nat.pow 2 52

/-- Whether the bits stand for no number. -/
def isNaN (x : Number) : Bool := x.biasedExponent == 2047 && x.fraction != 0

/-- Whether the number is infinite, with either sign. -/
def isInfinite (x : Number) : Bool := x.biasedExponent == 2047 && x.fraction == 0

/-- Whether the number is zero, with either sign. -/
def isZero (x : Number) : Bool := x.biasedExponent == 0 && x.fraction == 0

/-- Equality of numbers: a NaN equals nothing, and the two zeros are equal. -/
def isEqual (x y : Number) : Bool :=
  !x.isNaN && !y.isNaN && (x.bits == y.bits || (x.isZero && y.isZero))

/-- The significand, with its leading one unless the number is subnormal. -/
def significand (x : Number) : Nat :=
  if x.biasedExponent = 0 then x.fraction else x.fraction + Nat.pow 2 52

/-- The power of two that scales the significand. -/
def exponent (x : Number) : Int := max (x.biasedExponent : Int) 1 - 1075

/-- The size of a finite number with the interval of reals that round to it.
The gap below a power of two is half as wide as the gap above it. -/
def interval (x : Number) : Decimal.Interval :=
  let m := 4 * x.significand
  let gap := if x.fraction = 0 ∧ 1 < x.biasedExponent then 1 else 2
  let p := x.exponent - 2
  let up := Nat.pow 2 p.toNat
  { lower := (m - gap) * up
    value := m * up
    upper := (m + 2) * up
    scale := Nat.pow 2 (-p).toNat
    closed := x.significand % 2 == 0 }

/-- The size of a number in digits. -/
def magnitudeText (x : Number) : List Char :=
  if x.isInfinite then "inf".toList
  else if x.isZero then ['0']
  else (x.interval.shortest .up).positional

/-- The number as a query shows it: the fewest digits that read back to it,
never with an exponent. -/
def text (x : Number) : String :=
  if x.isNaN then "NaN"
  else if x.isNegative then String.ofList ('-' :: x.magnitudeText)
  else String.ofList x.magnitudeText

/-! ## Reading decimals -/

/-- The quotient of two numbers rounded to a whole number, a half to the even
neighbour. -/
def roundDiv (num den : Nat) : Nat :=
  let q := num / den
  let twice := 2 * (num % den)
  if den < twice ∨ (twice = den ∧ q % 2 = 1) then q + 1 else q

/-- The significand and the exponent nearest to a positive ratio, before the
check that the exponent fits. -/
def nearest (num den : Nat) : Nat × Int :=
  let scaled (e : Int) : Nat × Nat := (num * Nat.pow 2 (-e).toNat, den * Nat.pow 2 e.toNat)
  let guess := (Nat.log2 num : Int) - Nat.log2 den - 52
  let fits := let r := scaled guess; decide (Nat.pow 2 52 * r.2 ≤ r.1)
  let e := max (if fits then guess else guess - 1) (-1074)
  let r := scaled e
  (roundDiv r.1 r.2, e)

/-- The number nearest to a ratio, or nothing if it is too large. -/
def ofRatio? (negative : Bool) (num den : Nat) : Option Number :=
  let size :=
    if num = 0 then 0
    else
      let r := nearest num den
      (r.2 + 1074).toNat * Nat.pow 2 52 + r.1
  if 2047 * Nat.pow 2 52 ≤ size then none
  else some ⟨UInt64.ofNat (size + if negative then Nat.pow 2 63 else 0)⟩

/-- The number nearest to a decimal, or nothing if it is too large. -/
def ofDecimal? (negative : Bool) (d : Decimal) : Option Number :=
  ofRatio? negative (d.coefficient * Nat.pow 10 d.exponent.toNat)
    (Nat.pow 10 (-d.exponent).toNat)

/-! ## Arithmetic -/

/-- The size of a finite number as a ratio. -/
def ratio (x : Number) : Nat × Nat :=
  (x.significand * Nat.pow 2 x.exponent.toNat, Nat.pow 2 (-x.exponent).toNat)

/-- The product of two finite numbers, or nothing if it is too large. -/
def mul? (x y : Number) : Option Number :=
  ofRatio? (x.isNegative != y.isNegative) (x.ratio.1 * y.ratio.1) (x.ratio.2 * y.ratio.2)

/-- The quotient of two finite numbers of which the second is not zero, or
nothing if it is too large. -/
def div? (x y : Number) : Option Number :=
  ofRatio? (x.isNegative != y.isNegative) (x.ratio.1 * y.ratio.2) (x.ratio.2 * y.ratio.1)

/-- The number nearest to a power of ten.  None beyond `10 ^ 308` is finite,
and the powers up to it need no other value. -/
def powerOfTen (n : Nat) : Number := (ofDecimal? false ⟨1, n⟩).getD default

end Number

end FilterQuery
