import FilterQuery.Text.Numeral

/-!
# Faults in regular expressions

What can be wrong with the text of a regular expression, and the words in
which a report says so.
-/

namespace FilterQuery.Regex

/-- A stretch of a pattern, from the character at `start` up to but without
the one at `stop`. -/
structure Span where
  start : Nat
  stop : Nat
  deriving DecidableEq, Repr, Inhabited

/-- A reason to refuse a pattern. -/
inductive Fault where
  | classUnclosed
  | classRangeReversed
  | classRangeBoundary
  | classEscape
  | groupUnclosed
  | groupUnopened
  | nameUnclosed
  | nameEmpty
  | nameCharacter
  | nameDuplicate
  | flagUnknown
  | flagDuplicate
  | flagUnfinished
  | negationDangling
  | negationRepeated
  | repetitionMissing
  | countUnclosed
  | countReversed
  | countNotDecimal
  | decimalTooLarge
  | escapeUnfinished
  | escapeUnknown
  | hexDigit
  | hexEmpty
  | hexNotScalar
  | propertyEscape
  | propertyUnknown
  | propertyValueUnknown
  | wordBoundaryUnclosed
  | wordBoundaryUnknown
  | wordBoundaryOrCountUnfinished
  | backreference
  | lookAround
  | tooDeep (limit : Nat)
  | needsUnicode
  | notText
  deriving DecidableEq, Repr

/-- The words for a fault. -/
def Fault.message : Fault → String
  | classUnclosed => "unclosed character class"
  | classRangeReversed => "invalid character class range, the start must be <= the end"
  | classRangeBoundary => "invalid range boundary, must be a literal"
  | classEscape => "invalid escape sequence found in character class"
  | groupUnclosed => "unclosed group"
  | groupUnopened => "unopened group"
  | nameUnclosed => "unclosed capture group name"
  | nameEmpty => "empty capture group name"
  | nameCharacter => "invalid capture group character"
  | nameDuplicate => "duplicate capture group name"
  | flagUnknown => "unrecognized flag"
  | flagDuplicate => "duplicate flag"
  | flagUnfinished => "expected flag but got end of regex"
  | negationDangling => "dangling flag negation operator"
  | negationRepeated => "flag negation operator repeated"
  | repetitionMissing => "repetition operator missing expression"
  | countUnclosed => "unclosed counted repetition"
  | countReversed => "invalid repetition count range, the start must be <= the end"
  | countNotDecimal => "repetition quantifier expects a valid decimal"
  | decimalTooLarge => "decimal literal invalid"
  | escapeUnfinished => "incomplete escape sequence, reached end of pattern prematurely"
  | escapeUnknown => "unrecognized escape sequence"
  | hexDigit => "invalid hexadecimal digit"
  | hexEmpty => "hexadecimal literal empty"
  | hexNotScalar => "hexadecimal literal is not a Unicode scalar value"
  | propertyEscape => "invalid Unicode character class"
  | propertyUnknown => "Unicode property not found"
  | propertyValueUnknown => "Unicode property value not found"
  | wordBoundaryUnclosed =>
      "special word boundary assertion is either unclosed or contains an invalid character"
  | wordBoundaryUnknown =>
      "unrecognized special word boundary assertion, valid choices are: " ++
        "start, end, start-half or end-half"
  | wordBoundaryOrCountUnfinished =>
      "found either the beginning of a special word boundary or a bounded repetition " ++
        "on a \\b with an opening brace, but no closing brace"
  | backreference => "backreferences are not supported"
  | lookAround => "look-around, including look-ahead and look-behind, is not supported"
  | tooDeep limit =>
      "exceed the maximum number of nested parentheses/brackets (" ++
        Text.Numeral.text limit ++ ")"
  | needsUnicode => "Unicode not allowed here"
  | notText => "pattern can match invalid UTF-8"

/-- A fault, the stretch of the pattern that shows it, and an earlier stretch
that it contradicts. -/
structure Error where
  fault : Fault
  span : Span
  earlier? : Option Span := none
  deriving DecidableEq, Repr

/-- Refuses a pattern. -/
def fail {α : Type} (fault : Fault) (span : Span) : Except Error α :=
  .error { fault, span }

end FilterQuery.Regex
