import FilterQuery.Proofs.StartOfDay
import Mathlib.Data.List.Chain

/-!
# The order of dates

A text that names an earlier date or time means an earlier instant.  Local time
is not that regular: clocks that are put back show an hour twice, and clocks
that are put ahead skip one.  Taking the earliest instant of a wall time keeps
the order as long as clocks never return to a wall time that they skipped.

There are four groups.

* Wall times.  `WallTime.Before` orders them by year, month, day and time, and
  `Before.second_lt_or_eq` carries this over to the seconds that they count.
* Zones.  `resolve?_before` is the order of looked-up instants in a zone that
  skips for good.
* Tables.  `ZoneTable.IsGradual` says that no change moves clocks by more than
  the time since the one before it.  At a change clocks then show a wall time
  below which they never fall again (`le_clockAt_of_change`), so such a zone
  skips for good (`skipsForGood_of_isGradual`, by induction over the changes).
* Texts.  `read?_before` puts these together.  The walk to the start of a day
  ends on that day, so it does not change the order of days.
-/

namespace FilterQuery

/-! ## Wall times -/

namespace Calendar

/-- Earlier in the calendar: by year, then by month, then by day. -/
def Date.Before (d d' : Date) : Prop :=
  d.year < d'.year ∨
    d.year = d'.year ∧ (d.month < d'.month ∨ d.month = d'.month ∧ d.day < d'.day)

/-- Earlier on a day: by seconds, and within a second by nanoseconds. -/
def ClockTime.Before (t t' : ClockTime) : Prop :=
  t.second < t'.second ∨ t.second = t'.second ∧ t.nano < t'.nano

/-- Earlier on the wall: by date, and on one day by the time. -/
def WallTime.Before (w w' : WallTime) : Prop :=
  w.date.Before w'.date ∨ w.date = w'.date ∧ w.time.Before w'.time

instance (d d' : Date) : Decidable (d.Before d') :=
  inferInstanceAs (Decidable (_ ∨ _ ∧ (_ ∨ _ ∧ _)))

instance (t t' : ClockTime) : Decidable (t.Before t') :=
  inferInstanceAs (Decidable (_ ∨ _ ∧ _))

instance (w w' : WallTime) : Decidable (w.Before w') :=
  inferInstanceAs (Decidable (_ ∨ _ ∧ _))

namespace Date

/-- Within a year an earlier date has a smaller ordinal. -/
theorem ordinal_lt {d d' : Date} (hyear : d.year = d'.year)
    (h : d.month < d'.month ∨ d.month = d'.month ∧ d.day < d'.day) : d.ordinal < d'.ordinal := by
  obtain ⟨hmonth, -, -, -⟩ := d.isDate
  obtain ⟨-, -, hday', -⟩ := d'.isDate
  rw [ordinal, ordinal, daysBeforeMonth, daysBeforeMonth, ← hyear]
  rcases h with hlt | ⟨heq, hlt⟩
  · have hday := d.day_le
    have hrun := sum_take_add_getD_le_take (monthLengths (isLeap d.year))
      (show d.month - 1 < d'.month - 1 by omega)
    omega
  · rw [heq]
    omega

/-- An earlier date has a smaller number. -/
theorem Before.dayNumber_lt {d d' : Date} (h : d.Before d') : d.dayNumber < d'.dayNumber := by
  rw [dayNumber, dayNumber]
  rcases h with hyear | ⟨hyear, hday⟩
  · have hlast := d.ordinal_le
    have hfirst := d'.ordinal_pos
    have hyears := daysBeforeYear_mono (show d.year + 1 ≤ d'.year by omega)
    rw [daysBeforeYear_succ] at hyears
    omega
  · have hordinal := ordinal_lt hyear hday
    rw [hyear]
    omega

end Date

/-- An earlier wall time counts fewer seconds, or as many with fewer
nanoseconds. -/
theorem WallTime.Before.second_lt_or_eq {w w' : WallTime} (h : w.Before w') :
    w.second < w'.second ∨ w.second = w'.second ∧ w.time.nano < w'.time.nano := by
  have hlt := w.time.second_lt
  rw [WallTime.second, WallTime.second]
  rcases h with hdate | ⟨hdate, htime⟩
  · have hday := hdate.dayNumber_lt
    simp only [secondsPerDay] at *
    omega
  · rw [hdate]
    rcases htime with hsecond | ⟨hsecond, hnano⟩
    · exact .inl (by omega)
    · exact .inr ⟨by omega, hnano⟩

end Calendar

open Calendar

/-! ## Zones -/

namespace Zone

/-- In a zone that skips for good, the earliest second of an earlier wall time
is earlier: clocks that show the later one have shown the earlier one before. -/
theorem SkipsForGood.secondOf?_lt {z : Zone} (h : z.SkipsForGood)
    (hearliest : z.repetition = .earliest) {wall wall' u u' : Int}
    (hu : z.secondOf? wall = some u) (hu' : z.secondOf? wall' = some u') (hlt : wall < wall') :
    u < u' := by
  obtain ⟨-, hclock, hleast⟩ := (secondOf?_eq_some_iff hearliest).1 hu
  obtain ⟨-, hclock', -⟩ := (secondOf?_eq_some_iff hearliest).1 hu'
  obtain ⟨s, hs, hshown⟩ := h.shown_before hclock (show wall < z.clockAt u' by omega)
  have := hleast s hshown
  omega

/-- Earlier wall times mean earlier instants. -/
theorem SkipsForGood.resolve?_before {z : Zone} (h : z.SkipsForGood)
    (hearliest : z.repetition = .earliest) {w w' : WallTime} {t t' : ZonedTime}
    (ht : z.resolve? w = some t) (ht' : z.resolve? w' = some t') (hbefore : w.Before w') :
    t.instant.Before t'.instant := by
  obtain ⟨u, hu, rfl⟩ := Option.map_eq_some_iff.1 ht
  obtain ⟨u', hu', rfl⟩ := Option.map_eq_some_iff.1 ht'
  rcases hbefore.second_lt_or_eq with hsecond | ⟨hsecond, hnano⟩
  · exact .inl (h.secondOf?_lt hearliest hu hu' hsecond)
  · rw [hsecond, hu', Option.some_inj] at hu
    exact .inr ⟨hu.symm, hnano⟩

end Zone

/-! ## Tables -/

/-- A change moves clocks by no more than the time since another one.  Such a
change does not come before the other one. -/
def Transition.Follows (c' c : Transition) : Prop :=
  ((c'.offset - c.offset).natAbs : Int) ≤ c'.second - c.second

instance (c' c : Transition) : Decidable (c'.Follows c) :=
  inferInstanceAs (Decidable ((_ : Int) ≤ _))

namespace ZoneTable

/-- The changes are in order, and each moves clocks by no more than the time
since the one before it.  The first one may move them by any amount. -/
def IsGradual (table : ZoneTable) : Prop :=
  table.transitions.IsChain fun c c' => c'.Follows c

instance (table : ZoneTable) : Decidable table.IsGradual :=
  inferInstanceAs (Decidable (table.transitions.IsChain fun c c' => c'.Follows c))

variable {initial : Int} {c : Transition} {rest : List Transition}

theorem IsGradual.tail (h : IsGradual ⟨initial, c :: rest⟩) : IsGradual ⟨c.offset, rest⟩ :=
  List.IsChain.tail h

/-- From its first change on, a table is as if it began there. -/
theorem clockAt_cons_of_le {u : Int} (h : c.second ≤ u) :
    (zone ⟨initial, c :: rest⟩).clockAt u = (zone ⟨c.offset, rest⟩).clockAt u := by
  simp [Zone.clockAt, zone, offsetAt, h]

/-- Before the first change the initial offset is in force. -/
theorem clockAt_of_lt (h : IsGradual ⟨initial, c :: rest⟩) {u : Int} (hu : u < c.second) :
    (zone ⟨initial, c :: rest⟩).clockAt u = u + initial := by
  have hskip : (zone ⟨initial, c :: rest⟩).clockAt u = (zone ⟨initial, rest⟩).clockAt u := by
    simp [Zone.clockAt, zone, offsetAt, Int.not_le.2 hu]
  induction rest generalizing c with
  | nil => exact hskip
  | cons c' rest ih =>
    obtain ⟨hfollows, hrest⟩ := List.isChain_cons_cons.1 h
    have hu' : u < c'.second := by
      rw [Transition.Follows] at hfollows
      omega
    rw [hskip]
    apply ih hrest hu'
    simp [Zone.clockAt, zone, offsetAt, Int.not_le.2 hu']

/-- After a change clocks never show less than they did at the change: the next
one puts them back by the time since then at most. -/
theorem le_clockAt_of_change (h : IsGradual ⟨initial, c :: rest⟩) {u : Int} (hu : c.second ≤ u) :
    c.second + c.offset ≤ (zone ⟨initial, c :: rest⟩).clockAt u := by
  rw [clockAt_cons_of_le hu]
  induction rest generalizing initial c with
  | nil =>
    have hlast : (zone ⟨c.offset, []⟩).clockAt u = u + c.offset := rfl
    omega
  | cons c' rest ih =>
    have hfollows := (List.isChain_cons_cons.1 h).1
    rw [Transition.Follows] at hfollows
    by_cases hu' : c'.second ≤ u
    · have hnext := ih h.tail hu'
      rw [clockAt_cons_of_le hu']
      omega
    · rw [clockAt_of_lt h.tail (by omega)]
      omega

theorem clockAt_change (h : IsGradual ⟨initial, c :: rest⟩) :
    (zone ⟨initial, c :: rest⟩).clockAt c.second = c.second + c.offset := by
  rw [clockAt_cons_of_le (Int.le_refl _)]
  induction rest generalizing initial c with
  | nil => rfl
  | cons c' rest ih =>
    have hfollows := (List.isChain_cons_cons.1 h).1
    rw [Transition.Follows] at hfollows
    by_cases hlater : c.second < c'.second
    · exact clockAt_of_lt h.tail hlater
    · -- Two changes at once are to the same offset.
      have hsecond : c'.second = c.second := by omega
      have hoffset : c'.offset = c.offset := by omega
      rw [clockAt_cons_of_le (by omega), ← hsecond, ← hoffset]
      exact ih h.tail

/-- Clocks of a gradual table never return to a wall time that they skipped. -/
theorem skipsForGood_of_isGradual {table : ZoneTable} (h : table.IsGradual) :
    table.zone.SkipsForGood := by
  obtain ⟨initial, changes⟩ := table
  induction changes generalizing initial with
  | nil =>
    intro s wall hskips u _ _
    obtain ⟨hbefore, hafter⟩ := hskips
    have hclock : ∀ v, (zone ⟨initial, []⟩).clockAt v = v + initial := fun v => rfl
    rw [hclock] at hbefore hafter
    omega
  | cons c rest ih =>
    intro s wall hskips u hu hclock
    obtain ⟨hbefore, hafter⟩ := hskips
    -- Clocks skip nothing before the first change, and after it the rest decides.
    rcases Int.lt_trichotomy s c.second with hlt | heq | hgt
    · rw [clockAt_of_lt h (by omega)] at hbefore hafter
      omega
    · rw [heq, clockAt_change h] at hafter
      have hfloor := le_clockAt_of_change h (show c.second ≤ u by omega)
      omega
    · rw [clockAt_cons_of_le (by omega)] at hbefore hafter hclock
      exact ih c.offset h.tail s wall ⟨hbefore, hafter⟩ u hu hclock

end ZoneTable

/-! ## Texts -/

namespace DateText

/-- The two forms of a date in a query. -/
inductive Form where
  | day
  | dayAndTime
  deriving DecidableEq, Repr

/-- The wall time that a text of a form names in the standard pattern.  A date
alone names its midnight. -/
def named? : Form → String → Option WallTime
  | .day, raw => (day? Settings.standard.dateFormat raw).map Date.midnight
  | .dayAndTime, raw => wallTime? Settings.standard.dateTimeFormat raw

/-- What a text means is what a wall time on its day means, and with a time of
day it is the wall time that it names. -/
theorem exists_resolve?_of_read? {zone : Zone} {form : Form} {raw : String} {w : WallTime}
    {t : ZonedTime} (hnamed : named? form raw = some w)
    (h : read? zone .standard raw = some t) :
    ∃ shown, zone.resolve? shown = some t ∧ shown.date = w.date ∧
      (form = .dayAndTime → shown = w) := by
  cases form with
  | day =>
    obtain ⟨d, hd, rfl⟩ := Option.map_eq_some_iff.1 hnamed
    rw [read?_of_day? zone hd] at h
    obtain ⟨step, hstep, hresolve⟩ := Zone.exists_step_of_startOfDay? h
    exact ⟨Zone.stepTime d step, hresolve, Zone.date_of_step d hstep, nofun⟩
  | dayAndTime =>
    have hwall : wallTime? Settings.standard.dateTimeFormat raw = some w := hnamed
    rw [read?, hwall] at h
    exact ⟨w, h, rfl, fun _ => rfl⟩

/-- Of two midnights the earlier one is that of an earlier day. -/
theorem date_before_of_day {raw raw' : String} {w w' : WallTime}
    (hnamed : named? .day raw = some w) (hnamed' : named? .day raw' = some w')
    (hbefore : w.Before w') : w.date.Before w'.date := by
  obtain ⟨d, -, rfl⟩ := Option.map_eq_some_iff.1 hnamed
  obtain ⟨d', -, rfl⟩ := Option.map_eq_some_iff.1 hnamed'
  rcases hbefore with hdate | ⟨-, hsecond | ⟨-, hnano⟩⟩
  · exact hdate
  · exact absurd hsecond (Nat.lt_irrefl _)
  · exact absurd hnano (Nat.lt_irrefl _)

/-- The order of texts is the order of instants.  Let the changes of a zone be
in order and each move clocks by no more than the time since the one before it.
Of two texts of the same form that are read, the one that names an earlier wall
time means an earlier instant. -/
theorem read?_before (table : ZoneTable) (hgradual : table.IsGradual) (form : Form)
    {raw raw' : String} {w w' : WallTime} {t t' : ZonedTime}
    (hnamed : named? form raw = some w) (hnamed' : named? form raw' = some w')
    (hread : read? table.zone .standard raw = some t)
    (hread' : read? table.zone .standard raw' = some t') (hbefore : w.Before w') :
    t.instant.Before t'.instant := by
  obtain ⟨shown, hresolve, hdate, hsame⟩ := exists_resolve?_of_read? hnamed hread
  obtain ⟨shown', hresolve', hdate', hsame'⟩ := exists_resolve?_of_read? hnamed' hread'
  have hskips := ZoneTable.skipsForGood_of_isGradual hgradual
  apply hskips.resolve?_before rfl hresolve hresolve'
  cases form with
  | day =>
    have hdays := date_before_of_day hnamed hnamed' hbefore
    rw [← hdate, ← hdate'] at hdays
    exact .inl hdays
  | dayAndTime =>
    rw [hsame rfl, hsame' rfl]
    exact hbefore

/-- The theorem at a leap second in an hour that clocks showed twice and at the
midnight after it, in a zone whose clocks are put ahead again later. -/
theorem read?_before_of_repeated_hour :
    let table : ZoneTable := ⟨-7200, [⟨1550368800, -10800⟩, ⟨1572750000, -7200⟩]⟩
    let w : WallTime := ⟨⟨2019, 2, 16, by decide⟩, ⟨86399, 1000000000, by decide, by decide⟩⟩
    let w' : WallTime := ⟨⟨2019, 2, 17, by decide⟩, .midnight⟩
    let t := table.zone.localize ⟨1550368799, 1000000000, by decide⟩
    let t' := table.zone.localize ⟨1550372400, 0, by decide⟩
    table.IsGradual ∧ named? .dayAndTime "2019-02-16 23:59:60" = some w ∧
      named? .dayAndTime "2019-02-17 00:00:00" = some w' ∧
      read? table.zone .standard "2019-02-16 23:59:60" = some t ∧
      read? table.zone .standard "2019-02-17 00:00:00" = some t' ∧ w.Before w' ∧
      t.instant.Before t'.instant := by
  intro table w w' t t'
  have hgradual : table.IsGradual := by decide
  have hnamed : named? .dayAndTime "2019-02-16 23:59:60" = some w := by decide +kernel
  have hnamed' : named? .dayAndTime "2019-02-17 00:00:00" = some w' := by decide +kernel
  have hread : read? table.zone .standard "2019-02-16 23:59:60" = some t := by decide +kernel
  have hread' : read? table.zone .standard "2019-02-17 00:00:00" = some t' := by decide +kernel
  have hbefore : w.Before w' := by decide
  exact ⟨hgradual, hnamed, hnamed', hread, hread', hbefore,
    read?_before table hgradual .dayAndTime hnamed hnamed' hread hread' hbefore⟩

end DateText

end FilterQuery
