import FilterQuery.Calendar.Week
import FilterQuery.Zone.Basic

/-!
# Zones with a yearly summer time

A zone whose clocks change twice in every year, each time at local midnight
of a certain Sunday of a month.
-/

namespace FilterQuery

open Calendar

/-- A Sunday of a month: `⟨11, 1⟩` is the first Sunday of November. -/
structure SundayRule where
  month : Nat
  week : Nat
  deriving DecidableEq, Repr, Inhabited

/-- The number of the day that a rule names in a year. -/
def SundayRule.dayNumber (r : SundayRule) (year : Int) : Int :=
  let first := daysBeforeYear year + daysBeforeMonth year r.month - Date.epoch
  first + Weekday.sunday.daysSince (Weekday.ofDayNumber first) + 7 * ((r.week : Int) - 1)

/-- Standard and summer offset, and the Sundays on which summer time begins
and ends. -/
structure SummerTime where
  standard : Int
  summer : Int
  begins : SundayRule
  ends : SundayRule
  deriving DecidableEq, Repr, Inhabited

namespace SummerTime

/-- The second of universal time at which summer time begins in a year. -/
def beginSecond (s : SummerTime) (year : Int) : Int :=
  s.begins.dayNumber year * secondsPerDay - s.standard

/-- The second of universal time at which summer time ends in a year. -/
def endSecond (s : SummerTime) (year : Int) : Int :=
  s.ends.dayNumber year * secondsPerDay - s.summer

/-- Whether a second lies in summer time.  Where summer time begins after it
ends, it is in force at both ends of the year. -/
def isSummer (s : SummerTime) (second : Int) : Bool :=
  let year := yearOfDay (second / secondsPerDay + Date.epoch)
  let first := s.beginSecond year
  let last := s.endSecond year
  if first ≤ last then decide (first ≤ second ∧ second < last)
  else decide (second < last ∨ first ≤ second)

/-- The offset at a second of universal time. -/
def offsetAt (s : SummerTime) (second : Int) : Int :=
  if s.isSummer second then s.summer else s.standard

/-- The zone with this summer time.  The hour that clocks show twice at the
end of summer time means standard time. -/
def zone (s : SummerTime) : Zone where
  offsetAt := s.offsetAt
  offsets := [s.standard, s.summer]
  repetition := .latest
  offsetAt_mem second := by
    simp only [offsetAt]
    split <;> simp

end SummerTime

end FilterQuery
