import FilterQuery.Calendar.Date

/-!
# Wall clocks

A time of day, and a date with a time of day as a wall clock shows them.  A
leap second, written as second 60, is kept as second 59 with more than a
thousand million nanoseconds.
-/

namespace FilterQuery.Calendar

/-- The seconds of a day. -/
def secondsPerDay : Nat := 86400

/-- The nanoseconds of a second. -/
def nanosPerSecond : Nat := 1000000000

/-- A time of day. -/
@[ext]
structure ClockTime where
  /-- The seconds since midnight. -/
  second : Nat
  /-- The nanoseconds since that second, at least a whole second of them in a
  leap second. -/
  nano : Nat
  second_lt : second < secondsPerDay
  nano_lt : nano < 2 * nanosPerSecond
  deriving DecidableEq

namespace ClockTime

/-- The start of a day. -/
def midnight : ClockTime := ⟨0, 0, by decide, by decide⟩

/-- The time at an hour, a minute and a second, if there is one.  Second 60
is the leap second after second 59. -/
def ofParts? (hour minute second nano : Nat) : Option ClockTime :=
  if h : hour < 24 ∧ minute < 60 ∧ second ≤ 60 ∧ nano < nanosPerSecond then
    some {
      second := 3600 * hour + 60 * minute + min second 59
      nano := if second = 60 then nano + nanosPerSecond else nano
      second_lt := by
        have : min second 59 ≤ 59 := Nat.min_le_right ..
        simp only [secondsPerDay]
        omega
      nano_lt := by
        have := h.2.2.2
        simp only [nanosPerSecond] at *
        split <;> omega }
  else none

def hour (t : ClockTime) : Nat := t.second / 3600

def minute (t : ClockTime) : Nat := t.second / 60 % 60

/-- The second of the minute, 60 in a leap second. -/
def secondOfMinute (t : ClockTime) : Nat := t.second % 60 + t.nano / nanosPerSecond

/-- The nanoseconds of the second that the clock shows. -/
def nanoOfSecond (t : ClockTime) : Nat := t.nano % nanosPerSecond

end ClockTime

/-- What a wall clock with a calendar shows. -/
structure WallTime where
  date : Date
  time : ClockTime
  deriving DecidableEq

namespace WallTime

/-- The seconds that a clock which never jumps would have counted since
1970-01-01 00:00:00. -/
def second (w : WallTime) : Int := w.date.dayNumber * secondsPerDay + w.time.second

/-- The wall time at a count of seconds and nanoseconds. -/
def ofSecond (second : Int) (nano : Nat) (h : nano < 2 * nanosPerSecond) : WallTime where
  date := Date.ofDayNumber (second / secondsPerDay)
  time := {
    second := (second % secondsPerDay).toNat
    nano := nano
    second_lt := by simp only [secondsPerDay]; omega
    nano_lt := h }

/-- A wall time counts the seconds that it was made from. -/
theorem second_ofSecond (second : Int) (nano : Nat) (h : nano < 2 * nanosPerSecond) :
    (ofSecond second nano h).second = second := by
  simp only [ofSecond, WallTime.second, Date.dayNumber_ofDayNumber, secondsPerDay]
  omega

end WallTime

end FilterQuery.Calendar
