import FilterQuery.Proofs.GapWalk
import FilterQuery.Proofs.StandardPattern
import Mathlib.Data.Int.LeastGreatest

/-!
# The start of a day

A text with a date alone means the start of that day.  The walk that looks for
it goes in quarters of an hour, so it finds the first instant of the day
exactly if that instant is a whole number of quarters after midnight.

There are five groups.

* How clocks advance.  Offsets are bounded, so clocks reach every wall time
  some day, and `exists_first_reaching` takes the first second at which they
  do.  There they show the wall time or jump over it.  If they never show what
  they jumped over, they have shown every wall time that they show before they
  are past it (`SkipsForGood.shown_before`).
* First instants.  `Zone.IsStartOf` is the first instant of a day in range.
* The walk.  It ends in the first four hours of the day and on a quarter of an
  hour (`inReach_of_startOfDay?`), and if the first instant is such a one, it
  ends there (`IsStartOf.startOfDay?_eq`).
  `exists_isStartOf` says that away from the ends of the range every day has a
  first instant in its first four hours.
* Zones with one change.  Clocks that change once never show what they skipped,
  and a change that skips a midnight starts its day.
* Texts.  `read?_isStartOf_iff` carries this over to texts in the standard
  pattern, and `read?_not_isStartOf_of_28_second_gap` is a day whose start the
  walk steps over.
-/

namespace FilterQuery

open Calendar

/-- A wall time, as a count of seconds, belongs to a day. -/
def Calendar.Date.Covers (d : Date) (wall : Int) : Prop :=
  d.midnight.second ≤ wall ∧ wall < d.midnight.second + secondsPerDay

/-- Earlier in time: by seconds, and within a second by nanoseconds. -/
def Instant.Before (s t : Instant) : Prop :=
  s.second < t.second ∨ s.second = t.second ∧ s.nano < t.nano

namespace Zone

/-! ## How clocks advance -/

/-- Clocks jump over a wall time when they come to a second. -/
def Skips (z : Zone) (u wall : Int) : Prop :=
  z.clockAt (u - 1) < wall ∧ wall < z.clockAt u

/-- Clocks never show a wall time after they have jumped over it. -/
def SkipsForGood (z : Zone) : Prop :=
  ∀ s wall, z.Skips s wall → ∀ u, s ≤ u → z.clockAt u ≠ wall

/-- Clocks are never put ahead by more than a number of seconds. -/
def SkipsAtMost (z : Zone) (length : Int) : Prop :=
  ∀ u, z.offsetAt u - z.offsetAt (u - 1) ≤ length

theorem exists_bound (offsets : List Int) :
    ∃ bound, ∀ offset ∈ offsets, -bound ≤ offset ∧ offset ≤ bound := by
  induction offsets with
  | nil => exact ⟨0, by simp⟩
  | cons first offsets ih =>
    obtain ⟨bound, hbound⟩ := ih
    refine ⟨max bound first.natAbs, ?_⟩
    intro offset hmem
    rcases List.mem_cons.1 hmem with rfl | hmem
    · omega
    · have := hbound offset hmem
      omega

/-- Clocks reach every wall time, and there is a first second at which they
have reached it. -/
theorem exists_first_reaching (z : Zone) (wall : Int) :
    ∃ u, wall ≤ z.clockAt u ∧ ∀ v, wall ≤ z.clockAt v → u ≤ v := by
  obtain ⟨bound, hbound⟩ := exists_bound z.offsets
  have hoffset : ∀ u, -bound ≤ z.offsetAt u ∧ z.offsetAt u ≤ bound :=
    fun u => hbound _ (z.offsetAt_mem u)
  apply Int.exists_least_of_bdd
  · refine ⟨wall - bound, ?_⟩
    intro u hu
    have := hoffset u
    unfold clockAt at hu
    omega
  · refine ⟨wall + bound, ?_⟩
    have := hoffset (wall + bound)
    unfold clockAt
    omega

/-- Clocks that are past a wall time which they show at any time have shown it
before. -/
theorem SkipsForGood.shown_before {z : Zone} (h : z.SkipsForGood) {u v wall : Int}
    (hv : z.clockAt v = wall) (hu : wall < z.clockAt u) : ∃ s < u, z.clockAt s = wall := by
  obtain ⟨s, hreached, hfirst⟩ := z.exists_first_reaching wall
  have hsu : s ≤ u := hfirst u (by omega)
  have hsv : s ≤ v := hfirst v (by omega)
  -- When clocks reach the wall time they show it: if they jumped over it, they
  -- would not show it at `v`, which comes later.
  have hshown : z.clockAt s = wall := by
    by_contra hne
    have hbefore : z.clockAt (s - 1) < wall := by
      by_contra hle
      have := hfirst (s - 1) (by omega)
      omega
    have hskips : z.Skips s wall := ⟨hbefore, by omega⟩
    exact h s wall hskips v hsv hv
  refine ⟨s, ?_, hshown⟩
  have hne : s ≠ u := by
    intro heq
    rw [heq] at hshown
    omega
  omega

/-! ## First instants -/

/-- The first instant of a day, of those in range. -/
structure IsStartOf (z : Zone) (d : Date) (t : ZonedTime) : Prop where
  localized : t = z.localize t.instant
  inRange : Instant.inRange t.instant.second = true
  date : t.wall.date = d
  first : ∀ s : Instant, s.Before t.instant → Instant.inRange s.second = true →
    (z.localize s).wall.date ≠ d

theorem date_wall_localize_iff {z : Zone} {s : Instant} {d : Date} :
    (z.localize s).wall.date = d ↔ d.Covers (z.clockAt s.second) := by
  have hdate : (z.localize s).wall.date =
      Date.ofDayNumber (z.clockAt s.second / secondsPerDay) := rfl
  have hday : (z.localize s).wall.date = d ↔
      z.clockAt s.second / secondsPerDay = d.dayNumber := by
    rw [hdate]
    constructor
    · intro h
      rw [← h, Date.dayNumber_ofDayNumber]
    · intro h
      rw [h, Date.ofDayNumber_dayNumber]
  rw [hday, Date.Covers, second_midnight]
  simp only [secondsPerDay]
  omega

/-- An instant that comes first in its day, told by seconds. -/
theorem isStartOf_of_first {z : Zone} {d : Date} {u : Int} (hrange : Instant.inRange u = true)
    (hcovers : d.Covers (z.clockAt u)) (hfirst : ∀ v < u, ¬d.Covers (z.clockAt v)) :
    z.IsStartOf d (z.localize ⟨u, 0, zero_lt_nanos⟩) where
  localized := rfl
  inRange := hrange
  date := date_wall_localize_iff.2 hcovers
  first := by
    intro s hbefore _ hdate
    rcases hbefore with hlt | ⟨_, hnano⟩
    · exact hfirst s.second hlt (date_wall_localize_iff.1 hdate)
    · exact Nat.not_lt_zero _ hnano

namespace IsStartOf

variable {z : Zone} {d : Date} {t : ZonedTime}

theorem covers (h : z.IsStartOf d t) : d.Covers (z.clockAt t.instant.second) := by
  have hdate := h.date
  rw [h.localized] at hdate
  exact date_wall_localize_iff.1 hdate

theorem second_wall (h : z.IsStartOf d t) : t.wall.second = z.clockAt t.instant.second := by
  rw [h.localized]
  exact second_wall_localize z _

theorem second_le (h : z.IsStartOf d t) {v : Int} (hrange : Instant.inRange v = true)
    (hcovers : d.Covers (z.clockAt v)) : t.instant.second ≤ v := by
  by_contra hlt
  let s : Instant := ⟨v, 0, zero_lt_nanos⟩
  have hbefore : s.Before t.instant := .inl (Int.not_le.1 hlt)
  exact h.first s hbefore hrange (date_wall_localize_iff.2 hcovers)

/-- A day starts at a whole second. -/
theorem nano_eq_zero (h : z.IsStartOf d t) : t.instant.nano = 0 := by
  by_contra hne
  let s : Instant := ⟨t.instant.second, 0, zero_lt_nanos⟩
  have hbefore : s.Before t.instant := .inr ⟨rfl, Nat.pos_of_ne_zero hne⟩
  exact h.first s hbefore h.inRange (date_wall_localize_iff.2 h.covers)

end IsStartOf

/-! ## The walk -/

/-- Clocks show the wall time of an instant in range only, and in the first
four hours of its day. -/
structure InReach (z : Zone) (t : ZonedTime) : Prop where
  shown : z.Shows t.wall.second
  early : t.wall.time.second ≤ 4 * 3600

/-- The walk ends at an instant in reach, on a quarter of an hour. -/
theorem inReach_of_startOfDay? {z : Zone} {d : Date} {t : ZonedTime}
    (h : z.startOfDay? d = some t) : z.InReach t ∧ 15 * 60 ∣ t.wall.time.second := by
  obtain ⟨hearly, hquarter⟩ := time_of_startOfDay? h
  have hshown : z.Shows t.wall.second := by
    by_contra hnot
    rw [← resolve?_eq_none_iff, resolve?_of_startOfDay? h] at hnot
    cases hnot
  exact ⟨⟨hshown, hearly⟩, hquarter⟩

/-- The first instant of a day is looked up by its wall time: clocks show it
on that day only, and not before. -/
theorem IsStartOf.secondOf?_eq {z : Zone} {d : Date} {t : ZonedTime} (h : z.IsStartOf d t)
    (hearliest : z.repetition = .earliest) (hshown : z.Shows t.wall.second) :
    z.secondOf? t.wall.second = some t.instant.second := by
  refine (secondOf?_eq_some_iff hearliest).2 ⟨hshown, h.second_wall.symm, ?_⟩
  intro v hv
  apply h.second_le (hshown.inRange v hv)
  rw [hv, h.second_wall]
  exact h.covers

/-- Before the first instant of a day clocks show none of its wall times, and
they do not come back to one that is earlier on that day. -/
theorem IsStartOf.not_shows {z : Zone} {d : Date} {t : ZonedTime} (h : z.IsStartOf d t)
    (hskips : z.SkipsForGood) {wall : Int} (hstart : d.midnight.second ≤ wall)
    (hlt : wall < t.wall.second) : ¬z.Shows wall := by
  intro hshows
  obtain ⟨v, hv⟩ := hshows.somewhere
  rw [h.second_wall] at hlt
  obtain ⟨s, hs, hclock⟩ := hskips.shown_before hv hlt
  have hcovers : d.Covers (z.clockAt s) := by
    have := h.covers.2
    rw [hclock]
    exact ⟨hstart, by omega⟩
  have := h.second_le (hshows.inRange s hclock) hcovers
  omega

/-- The walk finds the first instant of a day if it is in reach and on a
quarter of an hour. -/
theorem IsStartOf.startOfDay?_eq {z : Zone} {d : Date} {t : ZonedTime} (h : z.IsStartOf d t)
    (hearliest : z.repetition = .earliest) (hskips : z.SkipsForGood) (hreach : z.InReach t)
    (hquarter : 15 * 60 ∣ t.wall.time.second) : z.startOfDay? d = some t := by
  obtain ⟨step, hstep⟩ := hquarter
  have hwall : t.wall.second = d.midnight.second + gapStep * step := by
    rw [second_midnight, WallTime.second, h.date, hstep]
    simp only [gapStep]
    omega
  have hsome : z.resolve? (stepTime d step) = some t := by
    have hinstant : t.instant = ⟨t.instant.second, 0, zero_lt_nanos⟩ :=
      Instant.ext rfl h.nano_eq_zero
    rw [resolve?, second_stepTime, ← hwall, h.secondOf?_eq hearliest hreach.shown,
      Option.map_some, h.localized, hinstant]
    rfl
  have hmax : step ≤ maxGapSteps := by
    have := hreach.early
    simp only [maxGapSteps]
    omega
  refine startOfDay?_of_first hmax hsome ?_
  intro earlier hearlier
  rw [resolve?_eq_none_iff, second_stepTime]
  apply h.not_shows hskips
  · simp only [gapStep]
    omega
  · rw [hwall]
    simp only [gapStep]
    omega

/-- Where a day does not touch the ends of the range, clocks that are put ahead
by at most four hours show it, and its first instant is in reach. -/
theorem exists_isStartOf {z : Zone} {d : Date} (hskips : z.SkipsAtMost (4 * 3600))
    (hrange : ∀ u, d.Covers (z.clockAt u) → Instant.inRange u = true) :
    ∃ t, z.IsStartOf d t ∧ z.InReach t := by
  -- The day starts when clocks first reach its midnight, as they jump at most
  -- four hours past it.
  obtain ⟨u, hreached, hfirst⟩ := z.exists_first_reaching d.midnight.second
  have hbefore : ∀ v < u, z.clockAt v < d.midnight.second := by
    intro v hv
    by_contra hle
    have := hfirst v (by omega)
    omega
  have hlate : z.clockAt u ≤ d.midnight.second + 4 * 3600 := by
    have hprevious := hbefore (u - 1) (by omega)
    have hjump := hskips u
    unfold clockAt at hprevious ⊢
    omega
  have hcovers : d.Covers (z.clockAt u) := by
    refine ⟨hreached, ?_⟩
    simp only [secondsPerDay]
    omega
  have hstart : z.IsStartOf d (z.localize ⟨u, 0, zero_lt_nanos⟩) := by
    apply isStartOf_of_first (hrange u hcovers) hcovers
    intro v hv hcovers'
    have := hbefore v hv
    have := hcovers'.1
    omega
  refine ⟨_, hstart, ⟨⟨⟨u, hstart.second_wall.symm⟩, ?_⟩, ?_⟩⟩
  · intro v hv
    apply hrange
    rw [hv, hstart.second_wall]
    exact hcovers
  · have hsecond : d.midnight.second + (z.localize ⟨u, 0, zero_lt_nanos⟩).wall.time.second =
        z.clockAt u := by
      rw [second_midnight, ← hstart.date]
      exact hstart.second_wall
    omega

end Zone

/-! ## Zones with one change -/

namespace ZoneTable

variable {initial second offset : Int}

theorem skipsAtMost_ofChange {length : Int} (h : offset - initial ≤ length) (hlength : 0 ≤ length) :
    (ofChange initial second offset).zone.SkipsAtMost length := by
  intro u
  have hoffset : ∀ v, (ofChange initial second offset).zone.offsetAt v =
      if second ≤ v then offset else initial := fun v => rfl
  rw [hoffset, hoffset]
  split_ifs <;> omega

/-- Clocks that change once never show again what they skipped. -/
theorem skipsForGood_ofChange (initial second offset : Int) :
    (ofChange initial second offset).zone.SkipsForGood := by
  intro s wall hskips u hu hclock
  unfold Zone.Skips at hskips
  rw [clockAt_ofChange, clockAt_ofChange] at hskips
  rw [clockAt_ofChange] at hclock
  split_ifs at hskips hclock <;> omega

/-- The change starts the day whose midnight it skips. -/
theorem isStartOf_ofChange {d : Date} (hrange : Instant.inRange second = true)
    (hbefore : second + initial ≤ d.midnight.second) (hcovers : d.Covers (second + offset)) :
    (ofChange initial second offset).zone.IsStartOf d
      ((ofChange initial second offset).zone.localize ⟨second, 0, Zone.zero_lt_nanos⟩) := by
  apply Zone.isStartOf_of_first hrange
  · rwa [clockAt_ofChange, if_pos (Int.le_refl second)]
  · intro v hv hcovers'
    rw [clockAt_ofChange, if_neg (by omega)] at hcovers'
    have := hcovers'.1
    omega

end ZoneTable

/-! ## Texts -/

namespace DateText

/-- A text in the standard pattern for days means the start of its day. -/
theorem read?_of_day? (zone : Zone) {raw : String} {d : Date}
    (h : day? Settings.standard.dateFormat raw = some d) :
    read? zone .standard raw = zone.startOfDay? d := by
  rw [read?, wallTime?_eq_none_of_day? h, h, Option.bind_some]

/-- When a date alone means the first instant of its day.  In a zone whose
clocks never show a wall time that they jumped over, it does so exactly if that
instant is in reach and lies on a quarter of an hour.  If clocks are put ahead
by at most four hours, the first instant is always in reach on a day that does
not touch the ends of the range, so the quarter of an hour decides. -/
theorem read?_isStartOf_iff (table : ZoneTable) (hlength : table.zone.SkipsAtMost (4 * 3600))
    (hskips : table.zone.SkipsForGood) (raw : String) (d : Date)
    (hday : day? Settings.standard.dateFormat raw = some d) :
    ((∃ t, read? table.zone .standard raw = some t ∧ table.zone.IsStartOf d t) ↔
        ∃ t, table.zone.IsStartOf d t ∧ table.zone.InReach t ∧ 15 * 60 ∣ t.wall.time.second) ∧
      ((∀ u, d.Covers (table.zone.clockAt u) → Instant.inRange u = true) →
        ∃ t, table.zone.IsStartOf d t ∧ table.zone.InReach t) := by
  rw [read?_of_day? table.zone hday]
  refine ⟨⟨?_, ?_⟩, Zone.exists_isStartOf hlength⟩
  · intro ⟨t, hstart, hfirst⟩
    exact ⟨t, hfirst, Zone.inReach_of_startOfDay? hstart⟩
  · intro ⟨t, hfirst, hreach, hquarter⟩
    exact ⟨t, hfirst.startOfDay?_eq rfl hskips hreach hquarter, hfirst⟩

/-- The theorem on a day whose clocks went from midnight to one o'clock. -/
theorem read?_isStartOf_of_hour_gap :
    let table := ZoneTable.ofChange (-10800) 1224385200 (-7200)
    let d : Date := ⟨2008, 10, 19, by decide⟩
    table.zone.SkipsAtMost (4 * 3600) ∧ table.zone.SkipsForGood ∧
      day? Settings.standard.dateFormat "2008-10-19" = some d ∧
      ∃ t, read? table.zone .standard "2008-10-19" = some t ∧ table.zone.IsStartOf d t := by
  intro table d
  have hlength : table.zone.SkipsAtMost (4 * 3600) :=
    ZoneTable.skipsAtMost_ofChange (by decide) (by decide)
  have hskips : table.zone.SkipsForGood := ZoneTable.skipsForGood_ofChange _ _ _
  have hday : day? Settings.standard.dateFormat "2008-10-19" = some d := by decide +kernel
  let first := table.zone.localize ⟨1224385200, 0, Zone.zero_lt_nanos⟩
  have hfirst : table.zone.IsStartOf d first :=
    ZoneTable.isStartOf_ofChange (by decide) (by decide) ⟨by decide, by decide⟩
  have hshown : table.zone.Shows first.wall.second := by
    have hwall : first.wall.second = 1224378000 := by decide
    rw [hwall]
    refine ⟨⟨1224385200, by decide⟩, ?_⟩
    intro u hu
    rw [ZoneTable.clockAt_ofChange] at hu
    apply Instant.inRange_eq_true_iff.2
    split_ifs at hu <;> omega
  have hread := (read?_isStartOf_iff table hlength hskips "2008-10-19" d hday).1.2
    ⟨first, hfirst, ⟨hshown, by decide⟩, by decide⟩
  exact ⟨hlength, hskips, hday, hread⟩

/-- On a day whose clocks were put ahead by 28 seconds at midnight, the first
instant is 28 seconds after midnight, and the date means a quarter past. -/
theorem read?_not_isStartOf_of_28_second_gap :
    let table := ZoneTable.ofChange 4772 (-1025745572) 4800
    let d : Date := ⟨1937, 7, 1, by decide⟩
    let first := table.zone.localize ⟨-1025745572, 0, Zone.zero_lt_nanos⟩
    let quarterPast := table.zone.localize ⟨-1025744700, 0, Zone.zero_lt_nanos⟩
    table.zone.SkipsAtMost (4 * 3600) ∧ table.zone.SkipsForGood ∧
      day? Settings.standard.dateFormat "1937-07-01" = some d ∧
      table.zone.IsStartOf d first ∧
      read? table.zone .standard "1937-07-01" = some quarterPast ∧
      ¬table.zone.IsStartOf d quarterPast := by
  intro table d first quarterPast
  have hfirst : table.zone.IsStartOf d first :=
    ZoneTable.isStartOf_ofChange (by decide) (by decide) ⟨by decide, by decide⟩
  refine ⟨ZoneTable.skipsAtMost_ofChange (by decide) (by decide),
    ZoneTable.skipsForGood_ofChange _ _ _, by decide +kernel, hfirst, by decide +kernel, ?_⟩
  intro hlater
  have hle := hlater.second_le hfirst.inRange hfirst.covers
  revert hle
  decide

end DateText

end FilterQuery
