import FilterQuery.DatePattern.Facts
import FilterQuery.DatePattern.Writer
import FilterQuery.Text.Scan

/-!
# Reading dates

`DatePattern.facts?` reads a text along a pattern and collects what it says.
The reader is generous with blanks and padding, so a text counts only if the
date that it describes is written, with the same pattern, as that very text:
`DatePattern.wallTime?` and `DatePattern.date?` check this.
-/

namespace FilterQuery

open Calendar Text

namespace DatePattern

/-! ## Numbers and names -/

/-- Reads a number of at most `width` digits. -/
def readNumber? (width : Nat) (text : List Char) : Option (Int × List Char) :=
  (takeDigits? width text).map fun r => (Numeral.value r.1, r.2)

/-- Reads a number that may have a sign.  With a sign it may have any number
of digits. -/
def readSigned? (width : Nat) : List Char → Option (Int × List Char)
  | '-' :: rest => (readNumber? rest.length rest).map fun r => (-r.1, r.2)
  | '+' :: rest => readNumber? rest.length rest
  | text => readNumber? width text

/-- How many digits a number has at most. -/
def width (text : List Char) : DatePart → Nat
  | .year | .isoYear => 4
  | .dayOfYear => 3
  | .quarter | .weekdayFromSunday | .weekdayFromMonday => 1
  | .nano => 9
  | .timestamp => text.length
  | _ => 2

/-- Whether a number may have a sign. -/
def isSigned : DatePart → Bool
  | .year | .isoYear => true
  | _ => false

/-- What a number in a text says. -/
def learn? (f : Facts) (part : DatePart) (n : Int) : Option Facts :=
  match part with
  | .year => f.add? .year n
  | .century => f.add? .century n
  | .yearOfCentury => f.add? .yearOfCentury n
  | .isoYear => f.add? .isoYear n
  | .isoYearOfCentury => f.add? .isoYearOfCentury n
  | .quarter => f.add? .quarter n
  | .month => f.add? .month n
  | .day => f.add? .day n
  | .dayOfYear => f.add? .dayOfYear n
  | .sundayWeek => f.add? .sundayWeek n
  | .mondayWeek => f.add? .mondayWeek n
  | .isoWeek => f.add? .isoWeek n
  | .weekdayFromSunday => if n ≤ 6 then f.add? .weekday ((n + 6) % 7) else none
  | .weekdayFromMonday => f.add? .weekday (n - 1)
  | .hour => (f.add? .halfDay (n / 12)).bind (·.add? .hourOfHalfDay (n % 12))
  | .hourOfHalfDay => if 1 ≤ n ∧ n ≤ 12 then f.add? .hourOfHalfDay (n % 12) else none
  | .minute => f.add? .minute n
  | .second => f.add? .second n
  | .nano => f.add? .nano n
  | .timestamp => f.add? .timestamp n

/-- Reads one of several words and returns its index. -/
def readWord? (words : List (List Char)) (text : List Char) : Option (Nat × List Char) :=
  (List.range words.length).findSome? fun i =>
    match words[i]? with
    | some word => (dropWord? word text).map fun rest => (i, rest)
    | none => none

/-- Reads a fraction of a second of exactly `places` digits. -/
def readPlaces? (f : Facts) (places : Nat) (text : List Char) : Option (Facts × List Char) :=
  (takeDigits? places text).bind fun r =>
    if r.1.length = places then
      (f.add? .nano (Numeral.value r.1 * Nat.pow 10 (9 - places) : Nat)).map fun g => (g, r.2)
    else none

/-! ## Items -/

/-- Reads one item of a pattern, and returns what is known then and the rest
of the text. -/
def readItem? (f : Facts) (text : List Char) : DateItem → Option (Facts × List Char)
  | .literal c => (dropWord? [c] text).map fun rest => (f, rest)
  | .blank _ => some (f, dropBlanks text)
  | .number part _ =>
    let text := dropBlanks text
    let read := if isSigned part then readSigned? (width text part) text
      else readNumber? (width text part) text
    read.bind fun r => (learn? f part r.1).map fun g => (g, r.2)
  | .monthName style =>
    (readWord? (style.names monthNames) text).bind fun r =>
      (f.add? .month (r.1 + 1 : Nat)).map fun g => (g, r.2)
  | .weekdayName style =>
    (readWord? (style.names weekdayNames) text).bind fun r =>
      (f.add? .weekday r.1).map fun g => (g, r.2)
  | .halfDay capitals =>
    (readWord? (halfDayNames capitals) text).bind fun r =>
      (f.add? .halfDay r.1).map fun g => (g, r.2)
  | .fraction places? =>
    match text, places? with
    | '.' :: rest, none =>
      (takeDigits? 9 rest).bind fun r =>
        (f.add? .nano (Numeral.value r.1 * Nat.pow 10 (9 - r.1.length) : Nat)).map fun g =>
          (g, r.2.dropWhile Char.isDigit)
    | '.' :: rest, some n => readPlaces? f n rest
    | _, _ => some (f, text)
  | .fractionDigits n => readPlaces? f n text

/-- Reads a text along a pattern, up to its end. -/
def readFacts? : DatePattern → Facts → List Char → Option Facts
  | [], f, text => if text.isEmpty then some f else none
  | item :: items, f, text =>
    match readItem? f text item with
    | some (g, rest) => readFacts? items g rest
    | none => none

/-- What a text says about a date, if it follows the pattern. -/
def facts? (p : DatePattern) (text : List Char) : Option Facts :=
  readFacts? p Facts.empty text

/-- The date and time of day that the pattern writes as exactly this text. -/
def wallTime? (p : DatePattern) (text : List Char) : Option WallTime :=
  ((p.facts? text).bind Facts.wallTime?).filter fun w =>
    p.write? w.date (some w.time) == some text

/-- The date that the pattern writes as exactly this text. -/
def date? (p : DatePattern) (text : List Char) : Option Date :=
  ((p.facts? text).bind Facts.date?).filter fun d => p.write? d none == some text

end DatePattern

end FilterQuery
