import FilterQuery.Calendar.Text
import FilterQuery.Calendar.Week
import FilterQuery.DatePattern.Names

/-!
# Writing dates

`DatePattern.write?` writes a date, or a date with a time of day, as a
pattern says.  It fails where the pattern asks for a time of day and there is
none.
-/

namespace FilterQuery

open Calendar Text

/-- Fills up digits as a padding says. -/
def Padding.fill (p : Padding) (width : Nat) (digits : List Char) : List Char :=
  match p with
  | .zeros => Numeral.padLeft '0' width digits
  | .blanks => Numeral.padLeft ' ' width digits
  | .nothing => digits

namespace DatePattern

/-- A number with a sign before it, filled up to `width` digits: zeros go
after the sign and blanks before it. -/
def writeSigned (p : Padding) (width : Nat) (sign : List Char) (n : Nat) : List Char :=
  match p with
  | .zeros => sign ++ Numeral.padded width n
  | .blanks => Numeral.padLeft ' ' (width + sign.length) (sign ++ Numeral.digits n)
  | .nothing => sign ++ Numeral.digits n

/-- A year, with a sign if it does not fit in four digits. -/
def writeYear (p : Padding) (year : Int) : List Char :=
  writeSigned p 4 (yearSign year) year.natAbs

/-- The hour of the half of the day as clocks show it, from 1 to 12. -/
def hourOfHalfDay (t : ClockTime) : Nat := (t.hour + 11) % 12 + 1

/-- Writes one number.  A century is written only if it has two digits. -/
def writeNumber? (d : Date) (t? : Option ClockTime) (part : DatePart) (p : Padding) :
    Option (List Char) :=
  let two (n : Nat) := some (p.fill 2 (Numeral.digits n))
  match part with
  | .year => some (writeYear p d.year)
  | .century => if 0 ≤ d.year ∧ d.year ≤ 9999 then two (d.year / 100).toNat else none
  | .yearOfCentury => two (d.year % 100).toNat
  | .isoYear => some (writeYear p d.isoYear)
  | .isoYearOfCentury => two (d.isoYear % 100).toNat
  | .quarter => some (Numeral.digits d.quarter)
  | .month => two d.month
  | .day => two d.day
  | .dayOfYear => some (p.fill 3 (Numeral.digits d.ordinal))
  | .sundayWeek => two (d.weekFrom Weekday.sunday)
  | .mondayWeek => two (d.weekFrom Weekday.monday)
  | .isoWeek => two d.isoWeek
  | .weekdayFromSunday => some (Numeral.digits (d.weekday.daysSince Weekday.sunday))
  | .weekdayFromMonday => some (Numeral.digits (d.weekday.val + 1))
  | .hour => t?.bind fun t => two t.hour
  | .hourOfHalfDay => t?.bind fun t => two (hourOfHalfDay t)
  | .minute => t?.bind fun t => two t.minute
  | .second => t?.bind fun t => two t.secondOfMinute
  | .nano => t?.map fun t => p.fill 9 (Numeral.digits t.nanoOfSecond)
  | .timestamp => t?.map fun t =>
      let s := WallTime.second ⟨d, t⟩
      if s < 0 then writeSigned p 8 ['-'] s.natAbs else writeSigned p 9 [] s.natAbs

/-- The first digits of a fraction of a second, without a point. -/
def firstPlaces (places nano : Nat) : List Char :=
  Numeral.padded places (nano / Nat.pow 10 (9 - places))

/-- Writes one item of a pattern. -/
def writeItem? (d : Date) (t? : Option ClockTime) : DateItem → Option (List Char)
  | .literal c => some [c]
  | .blank c => some [c]
  | .number part p => writeNumber? d t? part p
  | .monthName style => (style.names monthNames)[d.month - 1]?
  | .weekdayName style => (style.names weekdayNames)[d.weekday.val]?
  | .halfDay capitals => t?.bind fun t => (halfDayNames capitals)[t.hour / 12]?
  | .fraction none => t?.map fun t => fractionText t.nanoOfSecond
  | .fraction (some n) => t?.map fun t => '.' :: firstPlaces n t.nanoOfSecond
  | .fractionDigits n => t?.map fun t => firstPlaces n t.nanoOfSecond

/-- Writes a date, with a time of day if there is one. -/
def write? (d : Date) (t? : Option ClockTime) : DatePattern → Option (List Char)
  | [] => some []
  | item :: items =>
    match writeItem? d t? item, write? d t? items with
    | some s, some rest => some (s ++ rest)
    | _, _ => none

end DatePattern

end FilterQuery
