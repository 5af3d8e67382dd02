import FilterQuery.Problem
import FilterQuery.Zone.Basic

/-!
# Events

What happens while a query is refined: problems are found and literals are
converted.  The list of problems and the log are two views of the same
events.
-/

namespace FilterQuery

open Text

/-- How important a line of the log is. -/
inductive LogLevel where
  | debug
  | trace
  deriving DecidableEq, Repr, Inhabited

/-- The level as the log shows it. -/
def LogLevel.text : LogLevel → String
  | debug => "DEBUG"
  | trace => "TRACE"

/-- A line of the log. -/
structure LogRecord where
  level : LogLevel
  message : String
  deriving DecidableEq, Repr, Inhabited

/-- The line with its level in front. -/
def LogRecord.text (r : LogRecord) : String := r.level.text ++ " " ++ r.message

/-- Something that happens to a query. -/
inductive Event where
  | problem (p : Problem)
  /-- A literal was read as a date. -/
  | toDate (pos : Position) (raw : String) (value : ZonedTime)
  /-- A literal was taken for a glob. -/
  | toGlob (pos : Position) (raw : String)
  /-- A literal was compiled to a regular expression. -/
  | toRegex (pos : Position) (raw : String)
  deriving DecidableEq

namespace Event

/-- The problem that an event reports. -/
def problem? : Event → Option Problem
  | problem p => some p
  | _ => none

/-- The line of the log about an event. -/
def record : Event → LogRecord
  | problem p => ⟨.debug, "Query error: " ++ p.message⟩
  | toDate pos raw value =>
    ⟨.trace, pos.text ++ ": converted \"" ++ raw ++ "\" to date " ++ value.text⟩
  | toGlob pos raw => ⟨.trace, pos.text ++ ": converted \"" ++ raw ++ "\" to glob"⟩
  | toRegex pos raw => ⟨.trace, pos.text ++ ": compiled \"" ++ raw ++ "\" to regex"⟩

end Event

end FilterQuery
