import FilterQuery.Proofs.GapWalk
import FilterQuery.Proofs.StandardPattern

/-!
# The texts of the standard patterns

Which texts the two standard patterns accept, said without patterns: a grammar
of dates and wall times in digits.  The reader of dates is generous with
padding, signs and blanks, and only the check that a date is written as the
text it was read from makes it exact.  So soundness follows from that check,
and completeness is what the reader makes of every text of the grammar.

There are four groups.

* Numerals.  `Numeral.SpelledAs` is a number in at least so many digits.  Its value
  and its length fix a run of digits (`eq_of_value_eq`), so `padded` writes the
  only such run (`spelledAs_iff`).
* Dates.  `YearSpelledAs` gives a year its sign, and `Date.SpelledAs` is the grammar of
  dates.
* Times of day.  `ClockTime.Reads` says what hour, minute and second of a time
  are, with second 60 for a leap second.
* Texts.  `isWhole_of_wallTime?` rules out fractions of a second: a text does not
  show them, and it is read as one wall time only.
-/

namespace FilterQuery

open Calendar Text

/-! ## Numerals -/

namespace Text.Numeral

/-- Digits that spell a number in at least `width` places: zeros in front fill
it up to the width and go no further. -/
structure SpelledAs (width n : Nat) (ds : List Char) : Prop where
  isDigit : ∀ c ∈ ds, c.isDigit = true
  value : Numeral.value ds = n
  places : ds.length = width ∨ width < ds.length ∧ ds.head? ≠ some '0'

theorem value_cons (c : Char) (ds : List Char) :
    value (c :: ds) = Nat.pow 10 ds.length * (c.toNat - '0'.toNat) + value ds := by
  rw [value, Nat.ofDigitChars_cons, Nat.ofDigitChars_eq_ofDigitChars_zero, Nat.mul_zero,
    Nat.zero_add]
  rfl

/-- A run of digits is below the power of ten with so many zeros. -/
theorem value_lt {ds : List Char} (h : ∀ c ∈ ds, c.isDigit = true) :
    value ds < Nat.pow 10 ds.length := by
  induction ds with
  | nil => decide
  | cons c ds ih =>
    obtain ⟨-, hnine⟩ : 48 ≤ c.toNat ∧ c.toNat ≤ 57 :=
      Char.isDigit_iff_toNat.1 (h c List.mem_cons_self)
    have hrest := ih fun d hd => h d (List.mem_cons_of_mem c hd)
    have hzero : '0'.toNat = 48 := rfl
    have hdigit : Nat.pow 10 ds.length * (c.toNat - '0'.toNat) ≤ Nat.pow 10 ds.length * 9 :=
      Nat.mul_le_mul_left _ (by omega)
    have hpow : Nat.pow 10 (c :: ds).length = Nat.pow 10 ds.length * 10 := rfl
    rw [value_cons, hpow]
    omega

/-- A run of digits that begins with another digit than zero is not below the
power of ten with one zero less. -/
theorem pow_le_value {c : Char} (hc : c.isDigit = true) (hzero : c ≠ '0') (ds : List Char) :
    Nat.pow 10 ds.length ≤ value (c :: ds) := by
  have hne : c.toNat ≠ '0'.toNat := fun h => hzero (Char.toNat_inj.1 h)
  have hdigit : 1 ≤ c.toNat - '0'.toNat := by
    obtain ⟨hge, -⟩ := Char.isDigit_iff_toNat.1 hc
    omega
  have hle : Nat.pow 10 ds.length * 1 ≤ Nat.pow 10 ds.length * (c.toNat - '0'.toNat) :=
    Nat.mul_le_mul_left _ hdigit
  rw [value_cons]
  omega

/-- Two runs of as many digits that spell the same number are the same. -/
theorem eq_of_value_eq {ds es : List Char} (hds : ∀ c ∈ ds, c.isDigit = true)
    (hes : ∀ c ∈ es, c.isDigit = true) (hlength : ds.length = es.length)
    (hvalue : value ds = value es) : ds = es := by
  induction ds generalizing es with
  | nil => exact (List.eq_nil_of_length_eq_zero hlength.symm).symm
  | cons c ds ih =>
    cases es with
    | nil => cases hlength
    | cons d es =>
      have hlength' : ds.length = es.length := Nat.succ.inj hlength
      have hdsRest : ∀ x ∈ ds, x.isDigit = true := fun x hx => hds x (List.mem_cons_of_mem c hx)
      have hesRest : ∀ x ∈ es, x.isDigit = true := fun x hx => hes x (List.mem_cons_of_mem d hx)
      have hdsLt := value_lt hdsRest
      have hesLt := value_lt hesRest
      rw [value_cons, value_cons, hlength'] at hvalue
      rw [hlength'] at hdsLt
      -- The first digits are the quotients by the power of ten, the rest are the remainders.
      have hdiv : ∀ x r, r < Nat.pow 10 es.length →
          (Nat.pow 10 es.length * x + r) / Nat.pow 10 es.length = x := by
        intro x r hr
        rw [Nat.mul_add_div (Nat.zero_lt_of_lt hr), Nat.div_eq_of_lt hr, Nat.add_zero]
      have hfirst : c.toNat - '0'.toNat = d.toNat - '0'.toNat := by
        rw [← hdiv (c.toNat - '0'.toNat) _ hdsLt, hvalue, hdiv _ _ hesLt]
      have hrest : value ds = value es := by
        rw [hfirst] at hvalue
        exact Nat.add_left_cancel hvalue
      obtain ⟨hc, -⟩ := Char.isDigit_iff_toNat.1 (hds c List.mem_cons_self)
      obtain ⟨hd, -⟩ := Char.isDigit_iff_toNat.1 (hes d List.mem_cons_self)
      have hcd : c = d := Char.toNat_inj.1 (by omega)
      rw [hcd, ih hdsRest hesRest hlength' hrest]

theorem length_padded_eq_max (width n : Nat) :
    (padded width n).length = max width (digits n).length := by
  rw [padded, padLeft, List.length_append, List.length_replicate]
  omega

theorem padded_of_length_le {width n : Nat} (h : width ≤ (digits n).length) :
    padded width n = digits n := by
  rw [padded, padLeft, Nat.sub_eq_zero_of_le h]
  rfl

/-- A number of more than one digit does not begin with a zero. -/
theorem head?_digits_ne_zero {n : Nat} (h : 1 < (digits n).length) :
    (digits n).head? ≠ some '0' := by
  intro hhead
  cases hdigits : digits n with
  | nil => simp [hdigits] at hhead
  | cons c ds =>
    rw [hdigits] at hhead h
    have hc : c = '0' := Option.some.inj hhead
    have hvalue : value (c :: ds) = n := by rw [← hdigits, value_digits]
    have hlt : n < Nat.pow 10 ds.length := by
      have hrest : ∀ d ∈ ds, d.isDigit = true := by
        intro d hd
        apply isDigit_of_mem_digits
        rw [hdigits]
        exact List.mem_cons_of_mem c hd
      have := value_lt hrest
      rw [value_cons, hc, Nat.sub_self, Nat.mul_zero, Nat.zero_add] at hvalue
      omega
    have hpos : 0 < ds.length := by simpa using h
    have hlength : (digits n).length ≤ ds.length :=
      (Nat.length_toDigits_le_iff (by decide) hpos).2 hlt
    rw [hdigits, List.length_cons] at hlength
    omega

theorem spelledAs_padded {width : Nat} (h : 0 < width) (n : Nat) :
    SpelledAs width n (padded width n) where
  isDigit := fun _ hc => isDigit_of_mem_padded hc
  value := value_padded width n
  places := by
    by_cases hlong : width < (digits n).length
    · rw [padded_of_length_le (by omega)]
      exact .inr ⟨hlong, head?_digits_ne_zero (by omega)⟩
    · rw [length_padded_eq_max]
      exact .inl (by omega)

/-- Digits that spell a number are as many as it is filled up to. -/
theorem SpelledAs.length_eq {width n : Nat} {ds : List Char} (h : SpelledAs width n ds)
    (hwidth : 0 < width) : ds.length = (padded width n).length := by
  have hlt := value_lt h.isDigit
  rw [h.value] at hlt
  rcases h.places with hfull | ⟨hlong, hhead⟩
  · rw [hfull] at hlt ⊢
    exact (length_padded hwidth hlt).symm
  · cases ds with
    | nil => simp at hlong
    | cons c ds =>
      have hc : c ≠ '0' := by simpa using hhead
      have hle := pow_le_value (h.isDigit c List.mem_cons_self) hc ds
      rw [h.value] at hle
      rw [List.length_cons] at hlong hlt
      have hmost : (digits n).length ≤ ds.length + 1 :=
        (Nat.length_toDigits_le_iff (by decide) (by omega)).2 hlt
      have hleast : ¬(digits n).length ≤ ds.length := by
        intro hshort
        have : n < Nat.pow 10 ds.length :=
          (Nat.length_toDigits_le_iff (by decide) (by omega)).1 hshort
        omega
      rw [length_padded_eq_max, List.length_cons]
      omega

/-- A number is spelled in one way only. -/
theorem spelledAs_iff {width n : Nat} {ds : List Char} (hwidth : 0 < width) :
    SpelledAs width n ds ↔ ds = padded width n := by
  constructor
  · intro h
    have hpadded := spelledAs_padded hwidth n
    exact eq_of_value_eq h.isDigit hpadded.isDigit (h.length_eq hwidth)
      (h.value.trans hpadded.value.symm)
  · rintro rfl
    exact spelledAs_padded hwidth n

end Text.Numeral

/-! ## Dates -/

namespace Calendar

/-- A year in four digits; after the year 9999 with a plus sign and all its
digits, and before the year zero with a minus sign and at least four digits. -/
inductive YearSpelledAs : Int → List Char → Prop where
  | plain {n : Nat} {ds : List Char} (le : n ≤ 9999) (spells : Numeral.SpelledAs 4 n ds) :
      YearSpelledAs n ds
  | late {n : Nat} {ds : List Char} (lt : 9999 < n) (spells : Numeral.SpelledAs 4 n ds) :
      YearSpelledAs n ('+' :: ds)
  | early {n : Nat} {ds : List Char} (pos : 0 < n) (spells : Numeral.SpelledAs 4 n ds) :
      YearSpelledAs (-n) ('-' :: ds)

theorem yearSpelledAs_iff {year : Int} {text : List Char} :
    YearSpelledAs year text ↔ text = yearText year := by
  constructor
  · intro h
    cases h with
    | plain le spells =>
      rw [(Numeral.spelledAs_iff (by decide)).1 spells, yearText, yearSign, if_neg (by omega),
        if_neg (by omega)]
      rfl
    | late lt spells =>
      rw [(Numeral.spelledAs_iff (by decide)).1 spells, yearText, yearSign, if_neg (by omega),
        if_pos (by omega)]
      rfl
    | early pos spells =>
      rw [(Numeral.spelledAs_iff (by decide)).1 spells, yearText, yearSign, if_pos (by omega),
        Int.natAbs_neg]
      rfl
  · rintro rfl
    have hspells : Numeral.SpelledAs 4 year.natAbs (Numeral.padded 4 year.natAbs) :=
      Numeral.spelledAs_padded (by decide) _
    rw [yearText, yearSign]
    split_ifs with hneg hlarge
    · have hyear : year = -(year.natAbs : Int) := by omega
      rw [hyear, Int.natAbs_neg, Int.natAbs_natCast]
      exact .early (by omega) hspells
    · have hyear : year = (year.natAbs : Int) := by omega
      rw [hyear, Int.natAbs_natCast]
      exact .late (by omega) hspells
    · have hyear : year = (year.natAbs : Int) := by omega
      rw [hyear, Int.natAbs_natCast]
      exact .plain (by omega) hspells

/-- A date in digits, of a year that dates may have. -/
structure Date.SpelledAs (d : Date) (text : List Char) : Prop where
  first : -262143 ≤ d.year
  last : d.year ≤ 262142
  parts : ∃ year month day, YearSpelledAs d.year year ∧ Numeral.SpelledAs 2 d.month month ∧
    Numeral.SpelledAs 2 d.day day ∧ text = year ++ '-' :: (month ++ '-' :: day)

theorem Date.spelledAs_iff {d : Date} {text : List Char} :
    d.SpelledAs text ↔ d.inRange = true ∧ text = d.text := by
  rw [Date.inRange, decide_eq_true_eq]
  constructor
  · intro h
    obtain ⟨year, month, day, hyear, hmonth, hday, htext⟩ := h.parts
    rw [yearSpelledAs_iff.1 hyear, (Numeral.spelledAs_iff (by decide)).1 hmonth,
      (Numeral.spelledAs_iff (by decide)).1 hday] at htext
    exact ⟨⟨h.first, h.last⟩, htext⟩
  · rintro ⟨⟨hfirst, hlast⟩, rfl⟩
    exact ⟨hfirst, hlast, _, _, _, yearSpelledAs_iff.2 rfl, Numeral.spelledAs_padded (by decide) _,
      Numeral.spelledAs_padded (by decide) _, rfl⟩

/-! ## Times of day -/

/-- A time of day by its hour, minute and second.  Second 60 is second 59 with a
whole second of nanoseconds. -/
structure ClockTime.Reads (t : ClockTime) (hour minute second : Nat) : Prop where
  hour_lt : hour < 24
  minute_lt : minute < 60
  second_le : second ≤ 60
  second_eq : t.second = 3600 * hour + 60 * minute + min second 59
  nano_eq : t.nano = if second = 60 then 1000000000 else 0

namespace ClockTime

theorem exists_reads {hour minute second : Nat} (hhour : hour < 24) (hminute : minute < 60)
    (hsecond : second ≤ 60) : ∃ t : ClockTime, t.Reads hour minute second := by
  refine ⟨⟨3600 * hour + 60 * minute + min second 59, if second = 60 then 1000000000 else 0,
    ?_, ?_⟩, hhour, hminute, hsecond, rfl, rfl⟩
  · simp only [secondsPerDay]
    omega
  · simp only [nanosPerSecond]
    split_ifs <;> omega

/-- Hour, minute and second tell a time in full exactly if it has no fraction of
a second. -/
theorem reads_iff {t : ClockTime} {hour minute second : Nat} :
    t.Reads hour minute second ↔
      t.IsWhole ∧ t.hour = hour ∧ t.minute = minute ∧ t.secondOfMinute = second := by
  constructor
  · rintro ⟨hhour, hminute, hsecond, hsecondEq, hnano⟩
    simp only [IsWhole, ClockTime.hour, ClockTime.minute, secondOfMinute, nanosPerSecond, hsecondEq]
    split_ifs at hnano <;> omega
  · rintro ⟨hwhole, rfl, rfl, rfl⟩
    refine ⟨t.hour_lt, t.minute_lt, hwhole.secondOfMinute_le, ?_, ?_⟩
    · simp only [IsWhole, ClockTime.hour, ClockTime.minute, secondOfMinute, nanosPerSecond] at *
      omega
    · rcases hwhole with hnano | ⟨hnano, hlast⟩
      · rw [if_neg (by simp only [secondOfMinute, hnano, nanosPerSecond]; omega), hnano]
      · rw [if_pos (by simp only [secondOfMinute, hnano, hlast, nanosPerSecond]), hnano]
        rfl

/-- A time of day in digits. -/
def SpelledAs (t : ClockTime) (text : List Char) : Prop :=
  ∃ hour minute second hs ms ss, t.Reads hour minute second ∧ Numeral.SpelledAs 2 hour hs ∧
    Numeral.SpelledAs 2 minute ms ∧ Numeral.SpelledAs 2 second ss ∧
      text = hs ++ ':' :: (ms ++ ':' :: ss)

theorem spelledAs_iff {t : ClockTime} {text : List Char} :
    t.SpelledAs text ↔ t.IsWhole ∧ text = Numeral.padded 2 t.hour ++
      ':' :: (Numeral.padded 2 t.minute ++ ':' :: Numeral.padded 2 t.secondOfMinute) := by
  constructor
  · rintro ⟨hour, minute, second, hs, ms, ss, hreads, hhour, hminute, hsecond, rfl⟩
    obtain ⟨hwhole, rfl, rfl, rfl⟩ := reads_iff.1 hreads
    rw [(Numeral.spelledAs_iff (by decide)).1 hhour, (Numeral.spelledAs_iff (by decide)).1 hminute,
      (Numeral.spelledAs_iff (by decide)).1 hsecond]
    exact ⟨hwhole, rfl⟩
  · rintro ⟨hwhole, rfl⟩
    exact ⟨_, _, _, _, _, _, reads_iff.2 ⟨hwhole, rfl, rfl, rfl⟩,
      Numeral.spelledAs_padded (by decide) _, Numeral.spelledAs_padded (by decide) _,
      Numeral.spelledAs_padded (by decide) _, rfl⟩

/-- A time of day shows the same digits as one without a fraction of a
second. -/
theorem exists_isWhole (t : ClockTime) :
    ∃ t' : ClockTime, t'.IsWhole ∧ t'.hour = t.hour ∧ t'.minute = t.minute ∧
      t'.secondOfMinute = t.secondOfMinute := by
  have hsecond : t.secondOfMinute ≤ 60 := by
    have := t.nano_lt
    simp only [secondOfMinute, nanosPerSecond] at *
    omega
  obtain ⟨t', hreads⟩ := exists_reads t.hour_lt t.minute_lt hsecond
  exact ⟨t', reads_iff.1 hreads⟩

end ClockTime

/-- A date and a time of day in digits. -/
def WallTime.SpelledAs (w : WallTime) (text : List Char) : Prop :=
  ∃ date time, w.date.SpelledAs date ∧ w.time.SpelledAs time ∧ text = date ++ ' ' :: time

theorem WallTime.spelledAs_iff {w : WallTime} {text : List Char} :
    w.SpelledAs text ↔
      w.date.inRange = true ∧ w.time.IsWhole ∧ text = DatePattern.standardText w := by
  constructor
  · rintro ⟨date, time, hdate, htime, rfl⟩
    obtain ⟨hrange, rfl⟩ := Date.spelledAs_iff.1 hdate
    obtain ⟨hwhole, rfl⟩ := ClockTime.spelledAs_iff.1 htime
    exact ⟨hrange, hwhole, rfl⟩
  · rintro ⟨hrange, hwhole, rfl⟩
    exact ⟨_, _, Date.spelledAs_iff.2 ⟨hrange, rfl⟩, ClockTime.spelledAs_iff.2 ⟨hwhole, rfl⟩, rfl⟩

end Calendar

/-! ## Texts -/

namespace DateText

/-- The standard pattern reads no fraction of a second.  The text is also that
of a wall time without one, which is what reading it gives. -/
theorem isWhole_of_wallTime? {raw : String} {w : WallTime}
    (h : wallTime? Settings.standard.dateTimeFormat raw = some w) : w.time.IsWhole := by
  obtain ⟨t, hwhole, hhour, hminute, hsecond⟩ := w.time.exists_isWhole
  have htext : DatePattern.standardText ⟨w.date, t⟩ = DatePattern.standardText w := by
    simp only [DatePattern.standardText, hhour, hminute, hsecond]
  have hrange : w.date.inRange = true := inRange_of_wallTime? h
  have hread : wallTime? Settings.standard.dateTimeFormat raw = some ⟨w.date, t⟩ := by
    rw [← ofList_standardText_of_wallTime? h, ← htext]
    exact wallTime?_ofList_standardText hrange hwhole
  have hw : w = ⟨w.date, t⟩ := Option.some.inj (h.symm.trans hread)
  rw [hw]
  exact hwhole

theorem wallTime?_eq_some_iff {raw : String} {w : WallTime} :
    wallTime? Settings.standard.dateTimeFormat raw = some w ↔ w.SpelledAs raw.toList := by
  rw [WallTime.spelledAs_iff]
  constructor
  · intro h
    have htext := congrArg String.toList (ofList_standardText_of_wallTime? h)
    rw [String.toList_ofList] at htext
    exact ⟨inRange_of_wallTime? h, isWhole_of_wallTime? h, htext.symm⟩
  · rintro ⟨hrange, hwhole, htext⟩
    rw [← String.ofList_toList (s := raw), htext]
    exact wallTime?_ofList_standardText hrange hwhole

theorem day?_eq_some_iff {raw : String} {d : Date} :
    day? Settings.standard.dateFormat raw = some d ↔ d.SpelledAs raw.toList := by
  rw [Date.spelledAs_iff]
  constructor
  · intro h
    exact ⟨inRange_of_day? h, (text_of_day? h).symm⟩
  · rintro ⟨hrange, htext⟩
    rw [day?, DatePattern.ofText?_standardDay, Option.bind_some, htext]
    exact DatePattern.date?_dayText hrange

/-- The texts that the standard patterns accept, and what they mean.  With a time
of day these are the dates and times in digits, and they mean what they say; as
days they are the dates in digits, and they mean midnight.  No text is both. -/
theorem standard_eq_some_iff_spelledAs (raw : String) :
    (∀ w, wallTime? Settings.standard.dateTimeFormat raw = some w ↔ w.SpelledAs raw.toList) ∧
    (∀ w, (day? Settings.standard.dateFormat raw).map Date.midnight = some w ↔
      ∃ d : Date, d.SpelledAs raw.toList ∧ w = d.midnight) ∧
    ¬((wallTime? Settings.standard.dateTimeFormat raw).isSome ∧
      (day? Settings.standard.dateFormat raw).isSome) := by
  refine ⟨fun w => wallTime?_eq_some_iff, ?_, ?_⟩
  · intro w
    simp only [Option.map_eq_some_iff, day?_eq_some_iff, eq_comm (a := w)]
  · rintro ⟨hwall, hday⟩
    obtain ⟨d, hd⟩ := Option.isSome_iff_exists.1 hday
    rw [wallTime?_eq_none_of_day? hd] at hwall
    cases hwall

-- A leap second at the end of the year before the year zero.
example : wallTime? Settings.standard.dateTimeFormat "-0001-12-31 23:59:60" =
    some ⟨⟨-1, 12, 31, by decide⟩, ⟨86399, 1000000000, by decide, by decide⟩⟩ := by
  decide +kernel

-- A day in one digit is understood but not written like that.
example : day? Settings.standard.dateFormat "2017-09-1" = none := by
  decide +kernel

end DateText

end FilterQuery
