import FilterQuery.DatePattern.Description
import FilterQuery.DateText
import FilterQuery.Problem
import FilterQuery.Regex.Basic

/-!
# Conversion of texts

The text of a string literal as a date or as a regular expression, or the
problem with it.  A glob needs no conversion: its pattern is checked by
whoever evaluates the query.
-/

namespace FilterQuery.Conversion

/-- The date that a text means. -/
def toDate (zone : Zone) (settings : Settings) (raw : String) (pos : Position) :
    Except Problem ZonedTime :=
  match DateText.read? zone settings raw with
  | some value => .ok value
  | none =>
    .error (.invalidDate pos raw (DatePattern.describe settings.dateFormat)
      (DatePattern.describe settings.dateTimeFormat))

/-- The regular expression that a text is. -/
def toRegex (raw : String) (pos : Position) : Except Problem Regex :=
  match Regex.compile raw with
  | .ok value => .ok value
  | .error rejection => .error (.invalidRegex pos raw (rejection.reason raw))

end FilterQuery.Conversion
