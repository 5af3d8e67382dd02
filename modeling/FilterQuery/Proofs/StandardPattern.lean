import FilterQuery.DateText
import Mathlib.Tactic.SplitIfs

/-!
# The standard pattern reads what it writes

A wall time in the standard pattern, `%Y-%m-%d %H:%M:%S`, is read back as the
same wall time.  This holds for every year that dates may have, with its sign
if it needs one, and for leap seconds.

There are five groups.

* Numerals.  `takeDigits?_append` says when a run of digits is taken as a
  whole: there is no room for more, or what follows is no digit.
* Items.  One lemma for each kind of item of the pattern says what is known
  after it was read and what is left of the text.  Only the year needs its
  sign and the character after it; all other numbers have two digits.
* Facts.  `Facts.know` adds a number that was not known before, and
  `Facts.ofDate` and `Facts.ofWallTime` are what the texts of a date and of a
  wall time say.
* Texts.  A date is read first, whatever follows it (`readFacts?_dayText`), and
  `wallTime?_standardText` puts it together with the time of day.
* Days.  The standard pattern for days, `%Y-%m-%d`, reads back what it writes
  too (`date?_dayText`).  A date has no blank, so a text that is read by it is
  not read by the other pattern (`wallTime?_eq_none_of_day?`).
-/

namespace FilterQuery

open Calendar Text

/-! ## Numerals -/

namespace Text

namespace Numeral

theorem isDigit_of_mem_padded {width n : Nat} {c : Char} (h : c ∈ padded width n) :
    c.isDigit = true := by
  rw [padded, padLeft, List.mem_append] at h
  rcases h with h | h
  · rw [List.eq_of_mem_replicate h]
    rfl
  · exact isDigit_of_mem_digits h

@[simp]
theorem value_padded (width n : Nat) : value (padded width n) = n := by
  rw [value, padded, padLeft, Nat.ofDigitChars_append, Nat.ofDigitChars_replicate_zero]
  exact value_digits n

theorem padded_ne_nil (width n : Nat) : padded width n ≠ [] := by
  intro h
  exact Nat.toDigits_ne_nil (List.append_eq_nil_iff.1 h).2

/-- A number that has no more digits than the width is filled up to it. -/
theorem length_padded {width n : Nat} (hwidth : 0 < width) (h : n < Nat.pow 10 width) :
    (padded width n).length = width := by
  have hlength : (digits n).length ≤ width :=
    (Nat.length_toDigits_le_iff (by decide) hwidth).2 h
  rw [padded, padLeft, List.length_append, List.length_replicate]
  omega

/-- The digits of a number begin with a digit. -/
theorem exists_padded_eq_cons (width n : Nat) :
    ∃ c cs, padded width n = c :: cs ∧ c.isDigit = true := by
  cases h : padded width n with
  | nil => exact absurd h (padded_ne_nil width n)
  | cons c cs =>
    have hc : c ∈ padded width n := by simp [h]
    exact ⟨c, cs, rfl, isDigit_of_mem_padded hc⟩

end Numeral

/-- A text that does not go on with a digit. -/
def StopsDigits (text : List Char) : Prop := ∀ c ∈ text.head?, c.isDigit = false

theorem takeWhile_take_of_stopsDigits {text : List Char} (h : StopsDigits text) (n : Nat) :
    (text.take n).takeWhile Char.isDigit = [] := by
  cases text with
  | nil => simp
  | cons c text =>
    have hc : c.isDigit = false := h c (by simp)
    cases n <;> simp [hc]

/-- A run of digits is taken as a whole if it fills the width or nothing could
be added to it. -/
theorem takeDigits?_append {width : Nat} {ds rest : List Char} (hne : ds ≠ [])
    (hdigits : ∀ c ∈ ds, c.isDigit = true) (hwidth : ds.length ≤ width)
    (hstop : ds.length = width ∨ StopsDigits rest) :
    takeDigits? width (ds ++ rest) = some (ds, rest) := by
  have hnext : (rest.take (width - ds.length)).takeWhile Char.isDigit = [] := by
    rcases hstop with hfull | hstop
    · simp [hfull]
    · exact takeWhile_take_of_stopsDigits hstop _
  have htake : ((ds ++ rest).take width).takeWhile Char.isDigit = ds := by
    rw [List.take_append, List.take_of_length_le hwidth, List.takeWhile_append_of_pos hdigits,
      hnext, List.append_nil]
  simp [takeDigits?, htake, hne]

/-- A text that begins with a digit has no blanks at its start. -/
theorem dropBlanks_of_isDigit {c : Char} (h : c.isDigit = true) (text : List Char) :
    dropBlanks (c :: text) = c :: text := by
  have hc : isBlank c = false := by
    obtain ⟨hzero, hnine⟩ : 48 ≤ c.toNat ∧ c.toNat ≤ 57 := Char.isDigit_iff_toNat.1 h
    simp [isBlank, wideBlanks]
    omega
  simp [dropBlanks, hc]

end Text

/-! ## Items -/

namespace DatePattern

theorem readNumber?_padded {width k n : Nat} (rest : List Char)
    (hwidth : (Numeral.padded k n).length ≤ width)
    (hstop : (Numeral.padded k n).length = width ∨ StopsDigits rest) :
    readNumber? width (Numeral.padded k n ++ rest) = some ((n : Int), rest) := by
  rw [readNumber?, takeDigits?_append (Numeral.padded_ne_nil k n)
    (fun c hc => Numeral.isDigit_of_mem_padded hc) hwidth hstop]
  simp

theorem readSigned?_of_isDigit (width : Nat) {c : Char} (h : c.isDigit = true)
    (text : List Char) : readSigned? width (c :: text) = readNumber? width (c :: text) := by
  rw [readSigned?]
  · intro rest heq
    cases heq
    cases h
  · intro rest heq
    cases heq
    cases h

/-- A year is read with its sign, up to the character after its digits. -/
theorem readSigned?_yearText (year : Int) {rest : List Char} (h : StopsDigits rest) :
    readSigned? 4 (yearText year ++ rest) = some (year, rest) := by
  -- After a sign there may be any number of digits, and four without one.
  have hsigned : readNumber? (Numeral.padded 4 year.natAbs ++ rest).length
      (Numeral.padded 4 year.natAbs ++ rest) = some ((year.natAbs : Int), rest) :=
    readNumber?_padded rest (by simp) (.inr h)
  rw [yearText, yearSign]
  split_ifs with hneg hlarge
  · have hyear : -(year.natAbs : Int) = year := by omega
    simp only [List.cons_append, List.nil_append, readSigned?, hsigned, Option.map_some, hyear]
  · have hyear : (year.natAbs : Int) = year := by omega
    simp only [List.cons_append, List.nil_append, readSigned?, hsigned, hyear]
  · have hlength : (Numeral.padded 4 year.natAbs).length = 4 :=
      Numeral.length_padded (by decide) (show year.natAbs < 10000 by omega)
    have hyear : (year.natAbs : Int) = year := by omega
    obtain ⟨c, cs, hcons, hc⟩ := Numeral.exists_padded_eq_cons 4 year.natAbs
    have hread := readNumber?_padded rest (Nat.le_of_eq hlength) (.inl hlength)
    rw [hcons] at hread
    rw [List.nil_append, hcons, List.cons_append, readSigned?_of_isDigit 4 hc, ← List.cons_append,
      hread, hyear]

theorem dropBlanks_yearText (year : Int) (rest : List Char) :
    dropBlanks (yearText year ++ rest) = yearText year ++ rest := by
  obtain ⟨c, cs, hcons, hc⟩ := Numeral.exists_padded_eq_cons 4 year.natAbs
  rw [yearText, yearSign]
  split_ifs
  · rfl
  · rfl
  · rw [List.nil_append, hcons]
    exact dropBlanks_of_isDigit hc _

theorem dropBlanks_padded (width n : Nat) (rest : List Char) :
    dropBlanks (Numeral.padded width n ++ rest) = Numeral.padded width n ++ rest := by
  obtain ⟨c, cs, hcons, hc⟩ := Numeral.exists_padded_eq_cons width n
  rw [hcons]
  exact dropBlanks_of_isDigit hc _

theorem readItem?_literal (f : Facts) (c : Char) (rest : List Char) :
    readItem? f (c :: rest) (.literal c) = some (f, rest) := by
  simp [readItem?, dropWord?]

theorem readItem?_blank (f : Facts) (width n : Nat) (rest : List Char) :
    readItem? f (' ' :: (Numeral.padded width n ++ rest)) (.blank ' ') =
      some (f, Numeral.padded width n ++ rest) := by
  have hblank : isBlank ' ' = true := by decide
  have hdrop : dropBlanks (' ' :: (Numeral.padded width n ++ rest)) =
      dropBlanks (Numeral.padded width n ++ rest) := by
    simp [dropBlanks, hblank]
  rw [readItem?, hdrop, dropBlanks_padded]

theorem readItem?_year (f : Facts) (padding : Padding) (year : Int) {rest : List Char}
    (h : StopsDigits rest) :
    readItem? f (yearText year ++ rest) (.number .year padding) =
      (f.add? .year year).map fun g => (g, rest) := by
  simp [readItem?, dropBlanks_yearText, isSigned, width, readSigned?_yearText year h, learn?]

/-- The parts of the standard pattern that have two digits. -/
def twoDigitParts : List DatePart := [.month, .day, .hour, .minute, .second]

theorem isSigned_of_mem_twoDigitParts {part : DatePart} (h : part ∈ twoDigitParts) :
    isSigned part = false ∧ ∀ text, width text part = 2 := by
  simp only [twoDigitParts, List.mem_cons, List.not_mem_nil, or_false] at h
  rcases h with rfl | rfl | rfl | rfl | rfl <;> exact ⟨rfl, fun _ => rfl⟩

theorem readItem?_twoDigits {part : DatePart} (hpart : part ∈ twoDigitParts) (f : Facts)
    (padding : Padding) {n : Nat} (hn : n < 100) (rest : List Char) :
    readItem? f (Numeral.padded 2 n ++ rest) (.number part padding) =
      (learn? f part n).map fun g => (g, rest) := by
  obtain ⟨hsigned, hwidth⟩ := isSigned_of_mem_twoDigitParts hpart
  have hlength : (Numeral.padded 2 n).length = 2 := Numeral.length_padded (by decide) hn
  have hread := readNumber?_padded rest (Nat.le_of_eq hlength) (.inl hlength)
  simp [readItem?, dropBlanks_padded, hsigned, hwidth, hread]

end DatePattern

/-! ## Facts -/

theorem DateFact.admits_of_bounds? {k : DateFact} {n first last : Int}
    (hbounds : k.bounds? = some (first, last)) (hfirst : first ≤ n) (hlast : n ≤ last) :
    k.admits n = true := by
  rw [admits, hbounds]
  exact decide_eq_true ⟨hfirst, hlast⟩

namespace Facts

/-- What is known after a number is added that was not known before. -/
def know (f : Facts) (k : DateFact) (n : Int) : Facts := fun k' => if k' = k then some n else f k'

theorem add?_eq_know {f : Facts} {k : DateFact} {n : Int} (hunknown : f k = none)
    (hadmits : k.admits n = true) : f.add? k n = some (f.know k n) := by
  rw [add?, if_pos hadmits, hunknown]
  rfl

/-- What the standard text of a date says. -/
def ofDate (d : Date) : Facts :=
  empty |>.know .year d.year |>.know .month d.month |>.know .day d.day

/-- What the standard text of a wall time says. -/
def ofWallTime (w : WallTime) : Facts :=
  empty |>.know .year w.date.year
    |>.know .month w.date.month
    |>.know .day w.date.day
    |>.know .halfDay (w.time.hour / 12 : Nat)
    |>.know .hourOfHalfDay (w.time.hour % 12 : Nat)
    |>.know .minute w.time.minute
    |>.know .second w.time.secondOfMinute

end Facts

theorem Calendar.daysInMonth_le (year : Int) (month : Nat) : daysInMonth year month ≤ 31 := by
  have hlengths : ∀ leap, ∀ len ∈ monthLengths leap, len ≤ 31 := by
    intro leap
    cases leap <;> decide
  rw [daysInMonth]
  split_ifs
  · omega
  · cases hlen : (monthLengths (isLeap year))[month - 1]? with
    | none => simp
    | some len => exact hlengths _ len (List.mem_of_getElem? hlen)

namespace Calendar.ClockTime

/-- A time of day that hours, minutes and seconds tell in full: a whole second,
or a leap second at the end of a minute. -/
def IsWhole (t : ClockTime) : Prop :=
  t.nano = 0 ∨ t.nano = nanosPerSecond ∧ t.second % 60 = 59

theorem hour_lt (t : ClockTime) : t.hour < 24 := by
  have := t.second_lt
  simp only [hour, secondsPerDay] at *
  omega

theorem minute_lt (t : ClockTime) : t.minute < 60 := by
  simp only [minute]
  omega

theorem IsWhole.secondOfMinute_le {t : ClockTime} (h : t.IsWhole) : t.secondOfMinute ≤ 60 := by
  rcases h with h | ⟨h, hlast⟩ <;> simp only [secondOfMinute, h, nanosPerSecond] <;> omega

/-- Such a time is made again from its parts. -/
theorem IsWhole.ofParts?_eq {t : ClockTime} (h : t.IsWhole) :
    ofParts? t.hour t.minute t.secondOfMinute 0 = some t := by
  have hparts : t.hour < 24 ∧ t.minute < 60 ∧ t.secondOfMinute ≤ 60 ∧ 0 < nanosPerSecond :=
    ⟨t.hour_lt, t.minute_lt, h.secondOfMinute_le, by decide⟩
  have hsecond : 3600 * t.hour + 60 * t.minute + min t.secondOfMinute 59 = t.second := by
    rcases h with h | ⟨h, hlast⟩ <;>
      simp only [hour, minute, secondOfMinute, h, nanosPerSecond] <;> omega
  have hnano : (if t.secondOfMinute = 60 then 0 + nanosPerSecond else 0) = t.nano := by
    rcases h with h | ⟨h, hlast⟩
    · have hlt : t.secondOfMinute ≠ 60 := by
        simp only [secondOfMinute, h, nanosPerSecond]
        omega
      rw [if_neg hlt, h]
    · have hleap : t.secondOfMinute = 60 := by
        simp only [secondOfMinute, h, hlast, nanosPerSecond]
      rw [if_pos hleap, h, Nat.zero_add]
  rw [ofParts?, dif_pos hparts]
  exact congrArg some (ClockTime.ext hsecond hnano)

end Calendar.ClockTime

namespace Facts

theorem time?_ofWallTime {w : WallTime} (h : w.time.IsWhole) :
    (ofWallTime w).time? = some w.time := by
  have hhour : (12 * ((w.time.hour / 12 : Nat) : Int) + ((w.time.hour % 12 : Nat) : Int)).toNat =
      w.time.hour := by omega
  have htime : (ofWallTime w).time? = ClockTime.ofParts?
      (12 * ((w.time.hour / 12 : Nat) : Int) + ((w.time.hour % 12 : Nat) : Int)).toNat
      w.time.minute w.time.secondOfMinute 0 := rfl
  rw [htime, hhour, h.ofParts?_eq]

theorem agreesWith_ofDate (d : Date) : (ofDate d).agreesWith d = true := by
  simp [agreesWith, DateFact.ofDates, ofDate, know, empty, Date.fact?]

theorem date?_ofDate {d : Date} (h : d.inRange = true) : (ofDate d).date? = some d := by
  have hname : (ofDate d).dayName? = some (.calendar d.year d.month d.day) := rfl
  have hdate : Date.ofParts? d.year d.month d.day = some d := dif_pos d.isDate
  simp [date?, hname, DayName.date?, hdate, agreesWith_ofDate, h]

/-- The time of day says nothing about the date. -/
theorem date?_ofWallTime {w : WallTime} (h : w.date.inRange = true) :
    (ofWallTime w).date? = some w.date := by
  have hdate : (ofWallTime w).date? = (ofDate w.date).date? := rfl
  rw [hdate, date?_ofDate h]

theorem wallTime?_ofWallTime {w : WallTime} (hdate : w.date.inRange = true)
    (htime : w.time.IsWhole) : (ofWallTime w).wallTime? = some w := by
  have htimestamp : ofWallTime w .timestamp = none := rfl
  rw [wallTime?, date?_ofWallTime hdate, time?_ofWallTime htime, htimestamp]

theorem inRange_of_date? {f : Facts} {d : Date} (h : f.date? = some d) : d.inRange = true := by
  rw [date?, Option.filter_eq_some_iff, Bool.and_eq_true] at h
  exact h.2.2

/-- Every way to find a wall time, also by a timestamp, finds its date first. -/
theorem inRange_of_wallTime? {f : Facts} {w : WallTime} (h : f.wallTime? = some w) :
    w.date.inRange = true := by
  have hdate : ∃ g : Facts, g.date? = some w.date := by
    rw [wallTime?] at h
    split at h
    · rename_i hdate _ _
      cases h
      exact ⟨f, hdate⟩
    · rename_i hdate _ _
      split at h <;> cases h
      exact ⟨f, hdate⟩
    · split at h
      · cases h
      · split at h
        · cases h
        · rename_i g _
          split at h <;> cases h
          rename_i hdate _
          exact ⟨g, hdate⟩
    · cases h
  obtain ⟨g, hg⟩ := hdate
  exact inRange_of_date? hg

end Facts

/-! ## Texts -/

namespace DatePattern

/-- Date and time of day in the standard pattern. -/
def standardText (w : WallTime) : List Char :=
  w.date.text ++ ' ' :: (Numeral.padded 2 w.time.hour ++ ':' :: (Numeral.padded 2 w.time.minute ++
    ':' :: Numeral.padded 2 w.time.secondOfMinute))

/-- The items of the standard pattern for days. -/
def standardDayItems : DatePattern :=
  [zeroPadded .year, .literal '-', zeroPadded .month, .literal '-', zeroPadded .day]

/-- The items of the standard pattern. -/
def standardItems : DatePattern :=
  [zeroPadded .year, .literal '-', zeroPadded .month, .literal '-', zeroPadded .day, .blank ' ',
    zeroPadded .hour, .literal ':', zeroPadded .minute, .literal ':', zeroPadded .second]

theorem ofText?_standard :
    ofText? Settings.standard.dateTimeFormat = some standardItems := by decide

theorem write?_standardItems (w : WallTime) :
    standardItems.write? w.date (some w.time) = some (standardText w) := by
  simp [standardItems, zeroPadded, write?, writeItem?, writeNumber?, writeYear, writeSigned,
    Padding.fill, standardText, Date.text, yearText, Numeral.padded]

theorem learn?_hour {f : Facts} {hour : Nat} (hlt : hour < 24) (hhalf : f .halfDay = none)
    (hhour : f .hourOfHalfDay = none) :
    learn? f .hour hour = some ((f.know .halfDay (hour / 12 : Nat)).know .hourOfHalfDay
      (hour % 12 : Nat)) := by
  have hfirst : f.add? .halfDay (hour / 12 : Nat) = some (f.know .halfDay (hour / 12 : Nat)) :=
    Facts.add?_eq_know hhalf (DateFact.admits_of_bounds? rfl (by omega) (by omega))
  have hsecond : (f.know .halfDay (hour / 12 : Nat)).add? .hourOfHalfDay (hour % 12 : Nat) =
      some ((f.know .halfDay (hour / 12 : Nat)).know .hourOfHalfDay (hour % 12 : Nat)) := by
    have hunknown : f.know .halfDay (hour / 12 : Nat) .hourOfHalfDay = none := hhour
    exact Facts.add?_eq_know hunknown (DateFact.admits_of_bounds? rfl (by omega) (by omega))
  have hread : learn? f .hour hour =
      (f.add? .halfDay (hour / 12 : Nat)).bind (·.add? .hourOfHalfDay (hour % 12 : Nat)) := rfl
  rw [hread, hfirst, Option.bind_some, hsecond]

/-- Reading goes on after an item that was read. -/
theorem readFacts?_cons {item : DateItem} {f g : Facts} {text rest : List Char}
    (h : readItem? f text item = some (g, rest)) (items : DatePattern) :
    readFacts? (item :: items) f text = readFacts? items g rest := by
  rw [readFacts?, h]

theorem readItem?_zeroPadded (part : DatePart) (hpart : part ∈ twoDigitParts) {f g : Facts} {n : Nat}
    (hn : n < 100) (hlearn : learn? f part n = some g) (rest : List Char) :
    readItem? f (Numeral.padded 2 n ++ rest) (zeroPadded part) = some (g, rest) := by
  rw [zeroPadded, readItem?_twoDigits hpart f .zeros hn rest, hlearn]
  rfl

/-- The text of a date says what it is made of, whatever comes after it. -/
theorem readFacts?_dayText (d : Date) (items : DatePattern) (rest : List Char) :
    readFacts? (standardDayItems ++ items) Facts.empty (d.text ++ rest) =
      readFacts? items (Facts.ofDate d) rest := by
  obtain ⟨hmonthPos, hmonthLe, hdayPos, hdayLe⟩ := d.isDate
  have hdays := daysInMonth_le d.year d.month
  have hyear : ∀ rest, readItem? Facts.empty (yearText d.year ++ '-' :: rest)
      (zeroPadded .year) = some (Facts.empty.know .year d.year, '-' :: rest) := by
    intro rest
    rw [zeroPadded, readItem?_year _ _ _ (by simp [StopsDigits]), Facts.add?_eq_know rfl rfl]
    rfl
  have hmonth : DateFact.month.admits d.month = true :=
    DateFact.admits_of_bounds? rfl (by omega) (by omega)
  have hday : DateFact.day.admits d.day = true :=
    DateFact.admits_of_bounds? rfl (by omega) (by omega)
  rw [standardDayItems, Date.text]
  simp only [List.append_assoc, List.cons_append, List.nil_append]
  rw [readFacts?_cons (hyear _), readFacts?_cons (readItem?_literal _ _ _),
    readFacts?_cons (readItem?_zeroPadded .month (by decide) (by omega)
      (Facts.add?_eq_know rfl hmonth) _),
    readFacts?_cons (readItem?_literal _ _ _),
    readFacts?_cons (readItem?_zeroPadded .day (by decide) (by omega)
      (Facts.add?_eq_know rfl hday) _)]
  rfl

/-- The text of a wall time says what it is made of. -/
theorem facts?_standardText {w : WallTime} (h : w.time.IsWhole) :
    standardItems.facts? (standardText w) = some (Facts.ofWallTime w) := by
  have hhour := w.time.hour_lt
  have hminuteLt := w.time.minute_lt
  have hsecondLe := h.secondOfMinute_le
  have hminute : DateFact.minute.admits w.time.minute = true :=
    DateFact.admits_of_bounds? rfl (by omega) (by omega)
  have hsecond : DateFact.second.admits w.time.secondOfMinute = true :=
    DateFact.admits_of_bounds? rfl (by omega) (by omega)
  have hitems : standardItems = standardDayItems ++ .blank ' ' :: clock := rfl
  -- The last item is read as the others are once something follows it.
  rw [facts?, hitems, standardText, readFacts?_dayText, clock,
    ← List.append_nil (Numeral.padded 2 w.time.secondOfMinute),
    readFacts?_cons (readItem?_blank _ _ _ _),
    readFacts?_cons (readItem?_zeroPadded .hour (by decide) (by omega)
      (learn?_hour hhour rfl rfl) _),
    readFacts?_cons (readItem?_literal _ _ _),
    readFacts?_cons (readItem?_zeroPadded .minute (by decide) (by omega)
      (Facts.add?_eq_know rfl hminute) _),
    readFacts?_cons (readItem?_literal _ _ _),
    readFacts?_cons (readItem?_zeroPadded .second (by decide) (by omega)
      (Facts.add?_eq_know rfl hsecond) _)]
  rfl

theorem wallTime?_standardText {w : WallTime} (hdate : w.date.inRange = true)
    (htime : w.time.IsWhole) : standardItems.wallTime? (standardText w) = some w := by
  rw [wallTime?, facts?_standardText htime, Option.bind_some,
    Facts.wallTime?_ofWallTime hdate htime]
  simp [write?_standardItems]

/-- A pattern writes what it reads. -/
theorem write?_of_wallTime? {p : DatePattern} {text : List Char} {w : WallTime}
    (h : p.wallTime? text = some w) : p.write? w.date (some w.time) = some text := by
  rw [wallTime?, Option.filter_eq_some_iff] at h
  simpa using h.2

/-- A pattern reads dates in range only. -/
theorem inRange_of_date? {p : DatePattern} {text : List Char} {d : Date}
    (h : p.date? text = some d) : d.inRange = true := by
  rw [date?, Option.filter_eq_some_iff] at h
  obtain ⟨f, _, hf⟩ := Option.bind_eq_some_iff.1 h.1
  exact Facts.inRange_of_date? hf

theorem inRange_of_wallTime? {p : DatePattern} {text : List Char} {w : WallTime}
    (h : p.wallTime? text = some w) : w.date.inRange = true := by
  rw [wallTime?, Option.filter_eq_some_iff] at h
  obtain ⟨f, _, hf⟩ := Option.bind_eq_some_iff.1 h.1
  exact Facts.inRange_of_wallTime? hf

end DatePattern

/-- A query quotes the standard text of a date. -/
theorem ZonedTime.queryText_eq (t : ZonedTime) :
    t.queryText = String.ofList (DatePattern.standardText t.wall) := by
  simp [queryText, DatePattern.ofText?_standard, DatePattern.write?_standardItems]

namespace DateText

/-- The text of a wall time in the standard pattern is read as that wall
time. -/
theorem wallTime?_ofList_standardText {w : WallTime} (hdate : w.date.inRange = true)
    (htime : w.time.IsWhole) :
    wallTime? Settings.standard.dateTimeFormat (String.ofList (DatePattern.standardText w)) =
      some w := by
  rw [wallTime?, DatePattern.ofText?_standard, Option.bind_some, String.toList_ofList,
    DatePattern.wallTime?_standardText hdate htime]

/-- What the standard pattern reads is the text of what it read. -/
theorem ofList_standardText_of_wallTime? {raw : String} {w : WallTime}
    (h : wallTime? Settings.standard.dateTimeFormat raw = some w) :
    String.ofList (DatePattern.standardText w) = raw := by
  rw [wallTime?, DatePattern.ofText?_standard, Option.bind_some] at h
  have hwrite := DatePattern.write?_of_wallTime? h
  rw [DatePattern.write?_standardItems, Option.some_inj] at hwrite
  rw [hwrite, String.ofList_toList]

theorem inRange_of_day? {pattern raw : String} {d : Date} (h : day? pattern raw = some d) :
    d.inRange = true := by
  obtain ⟨p, _, hp⟩ := Option.bind_eq_some_iff.1 h
  exact DatePattern.inRange_of_date? hp

theorem inRange_of_wallTime? {pattern raw : String} {w : WallTime}
    (h : wallTime? pattern raw = some w) : w.date.inRange = true := by
  obtain ⟨p, _, hp⟩ := Option.bind_eq_some_iff.1 h
  exact DatePattern.inRange_of_wallTime? hp

end DateText

/-! ## Days -/

namespace DatePattern

theorem ofText?_standardDay :
    ofText? Settings.standard.dateFormat = some standardDayItems := by decide

theorem write?_standardDayItems (d : Date) : standardDayItems.write? d none = some d.text := by
  simp [standardDayItems, zeroPadded, write?, writeItem?, writeNumber?, writeYear, writeSigned,
    Padding.fill, Date.text, yearText, Numeral.padded]

/-- The standard pattern for days reads what it writes. -/
theorem date?_dayText {d : Date} (h : d.inRange = true) :
    standardDayItems.date? d.text = some d := by
  have hfacts : standardDayItems.facts? d.text = some (Facts.ofDate d) := by
    have hread := readFacts?_dayText d [] []
    rw [List.append_nil, List.append_nil] at hread
    exact hread
  rw [date?, hfacts, Option.bind_some, Facts.date?_ofDate h]
  simp [write?_standardDayItems]

/-- A pattern for days writes what it reads. -/
theorem write?_of_date? {p : DatePattern} {text : List Char} {d : Date}
    (h : p.date? text = some d) : p.write? d none = some text := by
  rw [date?, Option.filter_eq_some_iff] at h
  simpa using h.2

end DatePattern

theorem Calendar.Date.blank_not_mem_text (d : Date) : ' ' ∉ d.text := by
  have hdigits : ∀ width n, ' ' ∉ Numeral.padded width n := by
    intro width n hmem
    cases Numeral.isDigit_of_mem_padded hmem
  have hsign : ' ' ∉ yearSign d.year := by
    rw [yearSign]
    split_ifs <;> decide
  simp [Date.text, yearText, hdigits, hsign]

namespace DateText

/-- What the standard pattern for days reads is the text of what it read. -/
theorem text_of_day? {raw : String} {d : Date}
    (h : day? Settings.standard.dateFormat raw = some d) : d.text = raw.toList := by
  rw [day?, DatePattern.ofText?_standardDay, Option.bind_some] at h
  have hwrite := DatePattern.write?_of_date? h
  rwa [DatePattern.write?_standardDayItems, Option.some_inj] at hwrite

/-- No text is read by both standard patterns. -/
theorem wallTime?_eq_none_of_day? {raw : String} {d : Date}
    (h : day? Settings.standard.dateFormat raw = some d) :
    wallTime? Settings.standard.dateTimeFormat raw = none := by
  have htext := text_of_day? h
  cases hwall : wallTime? Settings.standard.dateTimeFormat raw with
  | none => rfl
  | some w =>
    have hraw : DatePattern.standardText w = raw.toList := by
      rw [← ofList_standardText_of_wallTime? hwall, String.toList_ofList]
    have hblank : ' ' ∈ d.text := by
      rw [htext, ← hraw]
      simp [DatePattern.standardText]
    exact absurd hblank d.blank_not_mem_text

end DateText

end FilterQuery
