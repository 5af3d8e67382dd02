import FilterQuery.DatePattern.Reader
import FilterQuery.Settings
import FilterQuery.Zone.Basic

/-!
# Dates in a query

A text that is compared with a date is read with the patterns of the
settings, as local time in a zone.  The pattern with a time of day comes
first, and a text that it accepts is read by it alone.  A text with a date
alone means the start of that day.
-/

namespace FilterQuery

open Calendar

namespace DateText

/-- The date and time of day that a pattern writes as exactly this text. -/
def wallTime? (pattern raw : String) : Option WallTime :=
  (DatePattern.ofText? pattern).bind (·.wallTime? raw.toList)

/-- The date that a pattern writes as exactly this text. -/
def day? (pattern raw : String) : Option Date :=
  (DatePattern.ofText? pattern).bind (·.date? raw.toList)

/-- The instant that a text means.  A time of day that clocks skip means
none; a day whose midnight they skip starts later. -/
def read? (zone : Zone) (settings : Settings) (raw : String) : Option ZonedTime :=
  match wallTime? settings.dateTimeFormat raw with
  | some w => zone.resolve? w
  | none => (day? settings.dateFormat raw).bind zone.startOfDay?

end DateText

/-- The wall time of an instant in the standard pattern, as a query quotes
it. -/
def ZonedTime.queryText (t : ZonedTime) : String :=
  let w := t.wall
  let written? := (DatePattern.ofText? Settings.standard.dateTimeFormat).bind
    (·.write? w.date (some w.time))
  String.ofList (written?.getD [])

end FilterQuery
