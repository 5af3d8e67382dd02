/-!
# Blank characters

The characters with the Unicode property `White_Space`.  A date pattern
treats them apart from other text, a number in a date may follow any of them,
and an extended regular expression ignores them.
-/

namespace FilterQuery.Text

/-- The white-space characters above the control characters. -/
def wideBlanks : List Nat :=
  [0x20, 0x85, 0xA0, 0x1680, 0x2028, 0x2029, 0x202F, 0x205F, 0x3000]

/-- Whether a character is white space: a control character from tab to
carriage return, an en quad up to a hair space, or one of `wideBlanks`. -/
def isBlank (c : Char) : Bool :=
  let n := c.toNat
  (0x09 ≤ n && n ≤ 0x0D) || (0x2000 ≤ n && n ≤ 0x200A) || wideBlanks.contains n

/-- What is left of a text after the blanks at its start. -/
def dropBlanks (text : List Char) : List Char := text.dropWhile isBlank

/-- Every white-space character that core knows is blank. -/
theorem isBlank_of_isWhitespace {c : Char} (h : c.isWhitespace = true) :
    isBlank c = true := by
  have hc : c = ' ' ∨ c = '\t' ∨ c = '\r' ∨ c = '\n' := by
    simpa [Char.isWhitespace, or_assoc] using h
  rcases hc with rfl | rfl | rfl | rfl <;> decide

end FilterQuery.Text
