import FilterQuery.Calendar.Date

/-!
# Weekdays and weeks

Three ways to number the weeks of a year: weeks that begin on Sunday or on
Monday, where the days before the first such day form week zero, and ISO
weeks, which begin on Monday and belong to the year that holds their
Thursday.
-/

namespace FilterQuery.Calendar

/-- A day of the week, by the number of days since Monday. -/
abbrev Weekday := Fin 7

namespace Weekday

def monday : Weekday := 0

def sunday : Weekday := 6

/-- The weekday a number of days after Monday. -/
def ofNumber (n : Nat) : Weekday := Fin.ofNat 7 n

/-- How many days a weekday comes after another one. -/
def daysSince (d start : Weekday) : Nat := (d.val + 7 - start.val) % 7

/-- The weekday of a day by its number: 1970-01-01 was a Thursday. -/
def ofDayNumber (n : Int) : Weekday := ⟨((n + 3) % 7).toNat, by omega⟩

end Weekday

namespace Date

/-- The weekday of a date. -/
def weekday (d : Date) : Weekday := Weekday.ofDayNumber d.dayNumber

/-- The week of the year when weeks begin on `start`. -/
def weekFrom (start : Weekday) (d : Date) : Nat :=
  (d.ordinal + 6 - d.weekday.daysSince start) / 7

/-- The day of a year in a week that begins on `start`, if the year has it. -/
def ofWeek? (start : Weekday) (year : Int) (week : Nat) (weekday : Weekday) : Option Date :=
  match ofOrdinal? year 1 with
  | none => none
  | some first =>
    let ordinal : Int :=
      1 + start.daysSince first.weekday + 7 * ((week : Int) - 1) + weekday.daysSince start
    if ordinal ≤ 0 then none else ofOrdinal? year ordinal.toNat

/-- The Thursday of the ISO week of a date. -/
def isoThursday (d : Date) : Date :=
  ofDayNumber (d.dayNumber - d.weekday.val + 3)

/-- The year to which the ISO week of a date belongs. -/
def isoYear (d : Date) : Int := d.isoThursday.year

/-- The number of the ISO week of a date. -/
def isoWeek (d : Date) : Nat := (d.isoThursday.ordinal + 6) / 7

/-- The day of an ISO week, if the year has that week. -/
def ofIsoWeek? (year : Int) (week : Nat) (weekday : Weekday) : Option Date :=
  match ofParts? year 1 4 with
  | none => none
  | some fourth =>
    let monday := fourth.dayNumber - fourth.weekday.val
    let d := ofDayNumber (monday + 7 * ((week : Int) - 1) + weekday.val)
    if d.isoYear = year ∧ d.isoWeek = week then some d else none

end Date

end FilterQuery.Calendar
