/-!
# Decimal numerals

Natural numbers as lists of decimal digits, in both directions.  Every number
the library prints (positions, dates, counts of problems) goes through
`digits`, and every number it reads goes through `value`.
-/

namespace FilterQuery.Text.Numeral

/-- The decimal digits of a number, the most significant first. -/
def digits (n : Nat) : List Char := Nat.toDigits 10 n

/-- The number that a list of decimal digits spells. -/
def value (ds : List Char) : Nat := Nat.ofDigitChars 10 ds 0

/-- Reading what was written gives the number back. -/
@[simp] theorem value_digits (n : Nat) : value (digits n) = n :=
  Nat.ofDigitChars_toDigits (by decide) (by decide)

/-- A number is written in digits only. -/
theorem isDigit_of_mem_digits {c : Char} {n : Nat} (h : c ∈ digits n) :
    c.isDigit = true :=
  Nat.isDigit_of_mem_toDigits (by decide) (by decide) h

/-- Fills a text up to a width on its left. -/
def padLeft (fill : Char) (width : Nat) (text : List Char) : List Char :=
  List.replicate (width - text.length) fill ++ text

/-- The digits of a number, with zeros in front up to a width. -/
def padded (width n : Nat) : List Char := padLeft '0' width (digits n)

/-- The text of a natural number. -/
def text (n : Nat) : String := String.ofList (digits n)

end FilterQuery.Text.Numeral
