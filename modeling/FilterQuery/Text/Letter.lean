import FilterQuery.Unicode.Binary
import FilterQuery.Unicode.Newer

/-!
# Letters and numerals

The characters that may stand in a name: those with the Unicode property
`Alphabetic`, and those whose general category is a kind of number.
-/

namespace FilterQuery.Text

open Unicode

/-- The letters. -/
def letters : CodeSet := Binary.alphabetic ∪ Newer.letters

/-- The digits and other numerals. -/
def numerals : CodeSet := Category.number ∪ Newer.numerals

/-- Whether a character is a letter. -/
def isLetter (c : Char) : Bool := letters.contains c.toNat

/-- Whether a character is a digit or another numeral. -/
def isNumeral (c : Char) : Bool := numerals.contains c.toNat

end FilterQuery.Text
