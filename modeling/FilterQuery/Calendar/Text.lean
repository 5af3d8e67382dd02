import FilterQuery.Calendar.Clock
import FilterQuery.Text.Numeral

/-!
# Dates and times in digits

The usual way to write a date, a time of day and an offset from universal
time.
-/

namespace FilterQuery.Calendar

open Text

/-- A sign for a year that does not fit in four digits. -/
def yearSign (year : Int) : List Char :=
  if year < 0 then ['-'] else if 9999 < year then ['+'] else []

/-- A year in four digits; a year that does not fit has a sign and at least
four digits. -/
def yearText (year : Int) : List Char := yearSign year ++ Numeral.padded 4 year.natAbs

/-- The date as year, month and day. -/
def Date.text (d : Date) : List Char :=
  yearText d.year ++ '-' :: (Numeral.padded 2 d.month ++ '-' :: Numeral.padded 2 d.day)

/-- A decimal point and as many digits as a fraction of a second needs, in
groups of three, and nothing for a whole second. -/
def fractionText (nano : Nat) : List Char :=
  if nano = 0 then []
  else if nano % 1000000 = 0 then '.' :: Numeral.padded 3 (nano / 1000000)
  else if nano % 1000 = 0 then '.' :: Numeral.padded 6 (nano / 1000)
  else '.' :: Numeral.padded 9 nano

/-- The time of day with its fraction of a second. -/
def ClockTime.text (t : ClockTime) : List Char :=
  Numeral.padded 2 t.hour ++ ':' :: (Numeral.padded 2 t.minute ++
    ':' :: (Numeral.padded 2 t.secondOfMinute ++ fractionText t.nanoOfSecond))

/-- An offset from universal time: a sign, hours and minutes, and seconds only
where there are some. -/
def offsetText (offset : Int) : List Char :=
  let n := offset.natAbs
  let seconds := if n % 60 = 0 then [] else ':' :: Numeral.padded 2 (n % 60)
  (if offset < 0 then '-' else '+') ::
    (Numeral.padded 2 (n / 3600) ++ ':' :: (Numeral.padded 2 (n / 60 % 60) ++ seconds))

end FilterQuery.Calendar
