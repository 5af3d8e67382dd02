import FilterQuery.Text.Blank

/-!
# Date patterns

A date pattern says how a date or a date with a time of day is written.  It
is a text in which `%` and a letter stand for a part of the date, and
everything else for itself.  `DatePattern.ofText?` splits such a text into
items.  It refuses a text with an item that no date can be written with, such
as an offset from universal time.
-/

namespace FilterQuery

open Text

/-- How a number is filled up to its width. -/
inductive Padding where
  | zeros
  | blanks
  | nothing
  deriving DecidableEq, Repr, Inhabited

/-- A number that a date or a time of day is written with. -/
inductive DatePart where
  | year | century | yearOfCentury
  | isoYear | isoYearOfCentury
  | quarter | month | day | dayOfYear
  | sundayWeek | mondayWeek | isoWeek
  /-- The weekday from 0 for Sunday to 6. -/
  | weekdayFromSunday
  /-- The weekday from 1 for Monday to 7. -/
  | weekdayFromMonday
  | hour
  /-- The hour from 1 to 12. -/
  | hourOfHalfDay
  | minute | second | nano
  /-- The seconds since 1970-01-01 00:00:00. -/
  | timestamp
  deriving DecidableEq, Repr, Inhabited

/-- Whether a name is written with three letters or in full. -/
inductive NameStyle where
  | short
  | full
  deriving DecidableEq, Repr, Inhabited

/-- A part of a date pattern. -/
inductive DateItem where
  /-- A character that stands for itself. -/
  | literal (c : Char)
  /-- A blank that stands for itself. -/
  | blank (c : Char)
  | number (part : DatePart) (padding : Padding)
  | monthName (style : NameStyle)
  | weekdayName (style : NameStyle)
  /-- The half of the day, `AM` or `PM`, in capitals or in small letters. -/
  | halfDay (capitals : Bool)
  /-- A point and a fraction of a second, with as many digits as it needs or
  with a fixed number of them. -/
  | fraction (places? : Option Nat)
  /-- The digits of a fraction of a second without the point. -/
  | fractionDigits (places : Nat)
  deriving DecidableEq, Repr, Inhabited

/-- A date pattern is a list of items. -/
abbrev DatePattern := List DateItem

namespace DatePattern

/-- The item of a character outside of any directive. -/
def plain (c : Char) : DateItem := if isBlank c then .blank c else .literal c

/-- The letters that stand for one number, with its usual padding. -/
def number? : Char → Option (DatePart × Padding)
  | 'Y' => some (.year, .zeros)
  | 'C' => some (.century, .zeros)
  | 'y' => some (.yearOfCentury, .zeros)
  | 'G' => some (.isoYear, .zeros)
  | 'g' => some (.isoYearOfCentury, .zeros)
  | 'q' => some (.quarter, .nothing)
  | 'm' => some (.month, .zeros)
  | 'd' => some (.day, .zeros)
  | 'e' => some (.day, .blanks)
  | 'j' => some (.dayOfYear, .zeros)
  | 'U' => some (.sundayWeek, .zeros)
  | 'W' => some (.mondayWeek, .zeros)
  | 'V' => some (.isoWeek, .zeros)
  | 'w' => some (.weekdayFromSunday, .nothing)
  | 'u' => some (.weekdayFromMonday, .nothing)
  | 'H' => some (.hour, .zeros)
  | 'k' => some (.hour, .blanks)
  | 'I' => some (.hourOfHalfDay, .zeros)
  | 'l' => some (.hourOfHalfDay, .blanks)
  | 'M' => some (.minute, .zeros)
  | 'S' => some (.second, .zeros)
  | 'f' => some (.nano, .zeros)
  | 's' => some (.timestamp, .nothing)
  | _ => none

/-- The modifiers that change the padding of a number. -/
def padding? : Char → Option Padding
  | '-' => some .nothing
  | '_' => some .blanks
  | '0' => some .zeros
  | _ => none

/-- The number of places that a fraction may be given. -/
def places? : Char → Option Nat
  | '3' => some 3
  | '6' => some 6
  | '9' => some 9
  | _ => none

/-- A number filled up with zeros. -/
def zeroPadded (part : DatePart) : DateItem := .number part .zeros

/-- Hours, minutes and seconds. -/
def clock : DatePattern :=
  [zeroPadded .hour, .literal ':', zeroPadded .minute, .literal ':', zeroPadded .second]

/-- Month, day and year of the century. -/
def monthFirst : DatePattern :=
  [zeroPadded .month, .literal '/', zeroPadded .day, .literal '/', zeroPadded .yearOfCentury]

/-- The items of a letter after `%`. -/
def directive? : Char → Option DatePattern
  | 'b' | 'h' => some [.monthName .short]
  | 'B' => some [.monthName .full]
  | 'a' => some [.weekdayName .short]
  | 'A' => some [.weekdayName .full]
  | 'p' => some [.halfDay true]
  | 'P' => some [.halfDay false]
  | 'F' => some [zeroPadded .year, .literal '-', zeroPadded .month, .literal '-', zeroPadded .day]
  | 'D' | 'x' => some monthFirst
  | 'v' => some
      [.number .day .blanks, .literal '-', .monthName .short, .literal '-', zeroPadded .year]
  | 'T' | 'X' => some clock
  | 'R' => some [zeroPadded .hour, .literal ':', zeroPadded .minute]
  | 'r' => some
      [zeroPadded .hourOfHalfDay, .literal ':', zeroPadded .minute, .literal ':',
        zeroPadded .second, .blank ' ', .halfDay true]
  | 'c' => some
      ([.weekdayName .short, .blank ' ', .monthName .short, .blank ' ', .number .day .blanks,
        .blank ' '] ++ clock ++ [.blank ' ', zeroPadded .year])
  | 'n' => some [.blank '\n']
  | 't' => some [.blank '\t']
  | '%' => some [.literal '%']
  | c => (number? c).map fun n => [.number n.1 n.2]

/-- How far a directive has been read. -/
inductive Progress where
  /-- Outside of any directive. -/
  | outside
  /-- After `%`. -/
  | percent
  /-- After `%` and a padding. -/
  | padding (p : Padding)
  /-- After `%.`. -/
  | point
  /-- After a number of places, with or without a point before it. -/
  | places (point : Bool) (n : Nat)
  deriving DecidableEq, Repr

/-- Reads the items of a pattern text.  A directive that stops in the middle
is refused. -/
def readItems : Progress → List Char → Option DatePattern
  | .outside, [] => some []
  | _, [] => none
  | .outside, c :: rest =>
    if c = '%' then readItems .percent rest
    else (readItems .outside rest).map (plain c :: ·)
  | .percent, c :: rest =>
    match padding? c, places? c with
    | some p, _ => readItems (.padding p) rest
    | none, some n => readItems (.places false n) rest
    | none, none =>
      if c = '.' then readItems .point rest
      else
        match directive? c with
        | some items => (readItems .outside rest).map (items ++ ·)
        | none => none
  | .padding p, c :: rest =>
    match number? c with
    | some n => (readItems .outside rest).map (.number n.1 p :: ·)
    | none => none
  | .point, c :: rest =>
    if c = 'f' then (readItems .outside rest).map (.fraction none :: ·)
    else
      match places? c with
      | some n => readItems (.places true n) rest
      | none => none
  | .places point n, c :: rest =>
    if c = 'f' then
      let item := if point then .fraction (some n) else .fractionDigits n
      (readItems .outside rest).map (item :: ·)
    else none

/-- The pattern that a text describes, if every directive in it is one that a
date can be written with. -/
def ofText? (text : String) : Option DatePattern := readItems .outside text.toList

end DatePattern

end FilterQuery
