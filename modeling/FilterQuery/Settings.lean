/-!
# Settings

The two date patterns of a query: one for a day and one for a day with a time
of day.
-/

namespace FilterQuery

/-- The date patterns that texts are read with. -/
structure Settings where
  /-- The pattern of a date without a time of day. -/
  dateFormat : String := "%Y-%m-%d"
  /-- The pattern of a date with a time of day. -/
  dateTimeFormat : String := "%Y-%m-%d %H:%M:%S"
  deriving DecidableEq, Repr

/-- The settings of a query that names none. -/
def Settings.standard : Settings := {}

instance : Inhabited Settings := ⟨Settings.standard⟩

end FilterQuery
