import FilterQuery.Calendar.Clock
import FilterQuery.Calendar.Week

/-!
# Facts about a date

What a text says about a date and a time of day, one number at a time.
`Facts` collects the numbers; two texts for the same number must agree.
`Facts.date?` and `Facts.wallTime?` find the one date that the numbers
describe, if there are enough of them and all fit together.
-/

namespace FilterQuery

open Calendar

/-- A number that describes a date or a time of day. -/
inductive DateFact where
  | year | century | yearOfCentury
  | isoYear | isoYearOfCentury
  | quarter | month | day | dayOfYear
  | sundayWeek | mondayWeek | isoWeek
  /-- The days since Monday. -/
  | weekday
  /-- Zero before noon and one after it. -/
  | halfDay
  /-- The hour of the half of the day, from 0 to 11. -/
  | hourOfHalfDay
  | minute | second | nano
  | timestamp
  deriving DecidableEq, Repr, Inhabited

namespace DateFact

/-- The facts that a date alone decides. -/
def ofDates : List DateFact :=
  [year, century, yearOfCentury, isoYear, isoYearOfCentury, quarter, month, day, dayOfYear,
    sundayWeek, mondayWeek, isoWeek, weekday]

/-- The least and the greatest number that a fact may be. -/
def bounds? : DateFact → Option (Int × Int)
  | year | isoYear | timestamp => none
  | century | yearOfCentury | isoYearOfCentury => some (0, 99)
  | quarter => some (1, 4)
  | month => some (1, 12)
  | day => some (1, 31)
  | dayOfYear => some (1, 366)
  | sundayWeek | mondayWeek => some (0, 53)
  | isoWeek => some (1, 53)
  | weekday => some (0, 6)
  | halfDay => some (0, 1)
  | hourOfHalfDay => some (0, 11)
  | minute => some (0, 59)
  | second => some (0, 60)
  | nano => some (0, 999999999)

/-- Whether a fact may be a given number. -/
def admits (k : DateFact) (n : Int) : Bool :=
  match k.bounds? with
  | none => true
  | some (lo, hi) => decide (lo ≤ n ∧ n ≤ hi)

end DateFact

/-- What a date says about itself.  A year before year zero has no century. -/
def Calendar.Date.fact? (d : Date) : DateFact → Option Int
  | .year => some d.year
  | .century => if 0 ≤ d.year then some (d.year / 100) else none
  | .yearOfCentury => if 0 ≤ d.year then some (d.year % 100) else none
  | .isoYear => some d.isoYear
  | .isoYearOfCentury => if 0 ≤ d.isoYear then some (d.isoYear % 100) else none
  | .quarter => some d.quarter
  | .month => some d.month
  | .day => some d.day
  | .dayOfYear => some d.ordinal
  | .sundayWeek => some (d.weekFrom Weekday.sunday)
  | .mondayWeek => some (d.weekFrom Weekday.monday)
  | .isoWeek => some d.isoWeek
  | .weekday => some d.weekday.val
  | _ => none

/-- The numbers known about a date and a time of day. -/
def Facts := DateFact → Option Int

namespace Facts

/-- Nothing is known. -/
def empty : Facts := fun _ => none

/-- Adds a number, if it is possible and does not contradict one that is
known. -/
def add? (f : Facts) (k : DateFact) (n : Int) : Option Facts :=
  if k.admits n then
    match f k with
    | none => some fun k' => if k' = k then some n else f k'
    | some m => if m = n then some f else none
  else none

/-- The year: in full, from century and year of the century, or from the year
of the century alone, which then lies between 1970 and 2069.  A century alone
is not enough. -/
def year? (f : Facts) : Option Int :=
  match f .year, f .century, f .yearOfCentury with
  | some y, _, _ => some y
  | none, some c, some y => some (100 * c + y)
  | none, none, some y => some (y + if y < 70 then 2000 else 1900)
  | none, _, none => none

/-- The ISO year: in full, or from the year of its century. -/
def isoYear? (f : Facts) : Option Int :=
  match f .isoYear, f .isoYearOfCentury with
  | some y, _ => some y
  | none, some y => some (y + if y < 70 then 2000 else 1900)
  | none, none => none

/-- Whether everything known fits a date. -/
def agreesWith (f : Facts) (d : Date) : Bool :=
  DateFact.ofDates.all fun k => f k == none || f k == d.fact? k

/-- The weekday, if it is known. -/
def weekday? (f : Facts) : Option Weekday :=
  (f .weekday).map fun n => Weekday.ofNumber n.toNat

/-- A way to name a day. -/
inductive DayName where
  | calendar (year : Int) (month day : Nat)
  | ordinal (year : Int) (day : Nat)
  /-- A week of a year by its number, for weeks that start on `first`. -/
  | week (first : Weekday) (year : Int) (week : Nat) (day : Weekday)
  | isoWeek (year : Int) (week : Nat) (day : Weekday)
  deriving DecidableEq, Repr

/-- The day of a name, if there is such a day. -/
def DayName.date? : DayName → Option Date
  | calendar y m d => Date.ofParts? y m d
  | ordinal y n => Date.ofOrdinal? y n
  | week first y w d => Date.ofWeek? first y w d
  | isoWeek y w d => Date.ofIsoWeek? y w d

/-- The name of a day by the first of these that are known: year, month and
day; year and day of the year; year, week and weekday for weeks from Sunday
and then from Monday; ISO year, ISO week and weekday.  A century without a
year names nothing. -/
def dayName? (f : Facts) : Option DayName :=
  if (f .century).isSome && f.year?.isNone then none
  else
    match f.year?, f .month, f .day, f .dayOfYear, f .sundayWeek, f .mondayWeek, f.weekday? with
    | some y, some m, some d, _, _, _, _ => some (.calendar y m.toNat d.toNat)
    | some y, _, _, some n, _, _, _ => some (.ordinal y n.toNat)
    | some y, _, _, _, some w, _, some d => some (.week Weekday.sunday y w.toNat d)
    | some y, _, _, _, _, some w, some d => some (.week Weekday.monday y w.toNat d)
    | _, _, _, _, _, _, _ =>
      match f.isoYear?, f .isoWeek, f.weekday? with
      | some y, some w, some d => some (.isoWeek y w.toNat d)
      | _, _, _ => none

/-- The date that the facts describe, if they are enough for one, agree with
it, and lie in the years that dates may have. -/
def date? (f : Facts) : Option Date :=
  (f.dayName?.bind DayName.date?).filter fun d => f.agreesWith d && d.inRange

/-- Whether the facts name a day that does not exist or that another fact
rules out. -/
def isContradictory (f : Facts) : Bool := f.dayName?.isSome && f.date?.isNone

/-- The time of day that the facts describe.  It needs an hour and a minute;
without a second it is a whole minute, and a fraction needs a second. -/
def time? (f : Facts) : Option ClockTime :=
  match f .halfDay, f .hourOfHalfDay, f .minute, f .second, f .nano with
  | some half, some hour, some minute, some second, nano =>
    ClockTime.ofParts? (12 * half + hour).toNat minute.toNat second.toNat (nano.getD 0).toNat
  | some half, some hour, some minute, none, none =>
    ClockTime.ofParts? (12 * half + hour).toNat minute.toNat 0 0
  | _, _, _, _, _ => none

/-- Adds what the timestamp says about year, day of the year and time of day.
Second 60 may be the second of the timestamp or the one before it. -/
def addTimestamp? (f : Facts) (timestamp : Int) : Option Facts :=
  let leap := f .second == some 60
  let shown := timestamp % 60
  if leap && shown != 59 && shown != 0 then none
  else
    let t := if leap && shown == 0 then timestamp - 1 else timestamp
    let w := WallTime.ofSecond t 0 ClockTime.midnight.nano_lt
    let second := if leap then 60 else (w.time.secondOfMinute : Int)
    (f.add? .second second)
      |>.bind (·.add? .year w.date.year)
      |>.bind (·.add? .dayOfYear w.date.ordinal)
      |>.bind (·.add? .halfDay (w.time.hour / 12 : Nat))
      |>.bind (·.add? .hourOfHalfDay (w.time.hour % 12 : Nat))
      |>.bind (·.add? .minute w.time.minute)

/-- Whether a wall time is the one of a timestamp.  The timestamp of a leap
second may also be that of the second after it. -/
def fitsTimestamp (w : WallTime) (timestamp : Int) : Bool :=
  timestamp == w.second ||
    (decide (nanosPerSecond ≤ w.time.nano) && timestamp == w.second + 1)

/-- The date and time of day that the facts describe.  A timestamp fills in
what is missing, but it does not mend a contradiction. -/
def wallTime? (f : Facts) : Option WallTime :=
  match f.date?, f.time?, f .timestamp with
  | some d, some t, none => some ⟨d, t⟩
  | some d, some t, some s => if fitsTimestamp ⟨d, t⟩ s then some ⟨d, t⟩ else none
  | _, _, some s =>
    if f.isContradictory then none
    else
      match f.addTimestamp? s with
      | none => none
      | some g =>
        match g.date?, g.time? with
        | some d, some t => some ⟨d, t⟩
        | _, _ => none
  | _, _, none => none

end Facts

end FilterQuery
