import FilterQuery.Zone.Basic
import Mathlib.Tactic.ByContra
import Mathlib.Tactic.SplitIfs

/-!
# Wall clocks and instants

Counts of days and seconds lose nothing: a date is the date of its number,
and a wall time is the wall time of its second.  Hence an instant that was
found for a wall time shows that wall time, and looking its wall time up
again finds the same instant.

There are three groups.

* Days.  `Date.ofDayNumber_dayNumber` is the other half of
  `Date.dayNumber_ofDayNumber`.  It puts a day back into its year
  (`yearOfDay_eq`) and into its month (`splitRuns_sum_take`).
* Seconds.  `WallTime.ofSecond_second` does the same for wall times.
* Zones.  `Zone.wall_of_resolve?` and `Zone.wall_of_startOfDay?` say what
  clocks show at the instants that a zone finds, and
  `Zone.resolve?_of_startOfDay?` that looking up what they show at the start
  of a day finds it again.
-/

namespace FilterQuery

namespace Calendar

/-! ## Days -/

theorem daysBeforeYear_mono {year year' : Int} (h : year ≤ year') :
    daysBeforeYear year ≤ daysBeforeYear year' := by
  simp only [daysBeforeYear]
  omega

/-- A day lies in no other year than its own. -/
theorem yearOfDay_eq {year n : Int} (hfirst : daysBeforeYear year ≤ n)
    (hlast : n < daysBeforeYear (year + 1)) : yearOfDay n = year := by
  obtain ⟨hfirst', hlast'⟩ := daysBeforeYear_yearOfDay n
  have hle : yearOfDay n ≤ year := by
    by_contra hlt
    have := daysBeforeYear_mono (show year + 1 ≤ yearOfDay n by omega)
    omega
  have hge : year ≤ yearOfDay n := by
    by_contra hlt
    have := daysBeforeYear_mono (show yearOfDay n + 1 ≤ year by omega)
    omega
  omega

namespace Date

theorem day_le (d : Date) :
    d.day ≤ ((monthLengths (isLeap d.year))[d.month - 1]?).getD 0 := by
  obtain ⟨hmonth, -, -, hday⟩ := d.isDate
  rwa [daysInMonth, if_neg (by omega)] at hday

theorem ordinal_pos (d : Date) : 1 ≤ d.ordinal := by
  obtain ⟨-, -, hday, -⟩ := d.isDate
  rw [ordinal]
  omega

theorem ordinal_le (d : Date) : d.ordinal ≤ daysInYear d.year := by
  have hday := d.day_le
  have htotal := sum_take_add_getD_le (monthLengths (isLeap d.year)) (d.month - 1)
  rw [ordinal, daysBeforeMonth, daysInYear]
  omega

/-- A date is the date of its number. -/
theorem ofDayNumber_dayNumber (d : Date) : ofDayNumber d.dayNumber = d := by
  obtain ⟨hmonth, -, hday, -⟩ := d.isDate
  have hlength := d.day_le
  have hfirst := d.ordinal_pos
  have hlast := d.ordinal_le
  have hcount : d.dayNumber + epoch = daysBeforeYear d.year + d.ordinal - 1 := by
    rw [dayNumber]
    omega
  have hyear : yearOfDay (d.dayNumber + epoch) = d.year := by
    apply yearOfDay_eq
    · omega
    · rw [daysBeforeYear_succ]
      omega
  have hsplit : splitRuns (monthLengths (isLeap d.year))
      (d.dayNumber + epoch - daysBeforeYear d.year).toNat = (d.month - 1, d.day - 1) := by
    have hordinal : d.ordinal = daysBeforeMonth d.year d.month + d.day := rfl
    have hplace : (d.dayNumber + epoch - daysBeforeYear d.year).toNat =
        daysBeforeMonth d.year d.month + (d.day - 1) := by omega
    rw [hplace, daysBeforeMonth]
    exact splitRuns_sum_take (by omega)
  ext
  · exact hyear
  · simp only [ofDayNumber, ofDayOfYear, hyear, hsplit]
    omega
  · simp only [ofDayNumber, ofDayOfYear, hyear, hsplit]
    omega

end Date

/-! ## Seconds -/

namespace WallTime

theorem second_ediv (w : WallTime) : w.second / (secondsPerDay : Int) = w.date.dayNumber := by
  have := w.time.second_lt
  simp only [second, secondsPerDay] at *
  omega

theorem second_emod (w : WallTime) : w.second % (secondsPerDay : Int) = w.time.second := by
  have := w.time.second_lt
  simp only [second, secondsPerDay] at *
  omega

/-- A wall time is the wall time of its second. -/
theorem ofSecond_second (w : WallTime) :
    ofSecond w.second w.time.nano w.time.nano_lt = w := by
  obtain ⟨d, t⟩ := w
  have hday := second_ediv ⟨d, t⟩
  have htime := second_emod ⟨d, t⟩
  simp only [ofSecond, hday, htime, Date.ofDayNumber_dayNumber, Int.toNat_natCast]

end WallTime

end Calendar

open Calendar

/-! ## Zones -/

namespace Zone

/-- The second that a zone finds for a wall time shows it. -/
theorem add_offsetAt_of_secondOf? {z : Zone} {wall u : Int} (h : z.secondOf? wall = some u) :
    u + z.offsetAt u = wall := by
  rw [secondOf?] at h
  split_ifs at h
  apply mem_secondsAt.1
  cases hrepetition : z.repetition with
  | earliest =>
    rw [hrepetition] at h
    exact List.min?_mem h
  | latest =>
    rw [hrepetition] at h
    exact List.max?_mem h

/-- What clocks show at an instant that was found for a wall time: its second
and the nanoseconds that were asked for. -/
theorem wall_localize {z : Zone} {wall u : Int} (h : z.secondOf? wall = some u) {nano : Nat}
    (hnano : nano < 2 * nanosPerSecond) :
    (z.localize ⟨u, nano, hnano⟩).wall = WallTime.ofSecond wall nano hnano := by
  simp only [localize, ZonedTime.wall, add_offsetAt_of_secondOf? h]

theorem wall_of_resolve? {z : Zone} {w : WallTime} {t : ZonedTime} (h : z.resolve? w = some t) :
    t.wall = w := by
  obtain ⟨u, hu, rfl⟩ := Option.map_eq_some_iff.1 h
  rw [wall_localize hu, WallTime.ofSecond_second]

theorem zero_lt_nanos : 0 < 2 * nanosPerSecond := by decide

/-- The wall time a number of steps after midnight. -/
def stepTime (d : Date) (step : Nat) : WallTime :=
  WallTime.ofSecond (d.dayNumber * secondsPerDay + gapStep * step) 0 zero_lt_nanos

/-- The start of a day is found at a step after midnight. -/
theorem exists_step_of_startOfDay? {z : Zone} {d : Date} {t : ZonedTime}
    (h : z.startOfDay? d = some t) :
    ∃ step ≤ maxGapSteps, z.resolve? (stepTime d step) = some t := by
  obtain ⟨u, hu, rfl⟩ := Option.map_eq_some_iff.1 h
  obtain ⟨step, hstep, hu⟩ := List.exists_of_findSome?_eq_some hu
  refine ⟨step, by simpa [Nat.lt_succ_iff] using hstep, ?_⟩
  rw [resolve?, stepTime, WallTime.second_ofSecond, hu]
  rfl

/-- The steps after midnight stay within the day. -/
theorem date_of_step (d : Date) {step : Nat} (h : step ≤ maxGapSteps) :
    (stepTime d step).date = d := by
  have hday : (d.dayNumber * (secondsPerDay : Int) + gapStep * step) / (secondsPerDay : Int) =
      d.dayNumber := by
    simp only [secondsPerDay, gapStep, maxGapSteps] at *
    omega
  simp only [stepTime, WallTime.ofSecond, hday, Date.ofDayNumber_dayNumber]

/-- What clocks show at the start of a day: a whole second of that day. -/
theorem wall_of_startOfDay? {z : Zone} {d : Date} {t : ZonedTime} (h : z.startOfDay? d = some t) :
    t.wall.date = d ∧ t.wall.time.nano = 0 := by
  obtain ⟨step, hstep, ht⟩ := exists_step_of_startOfDay? h
  rw [wall_of_resolve? ht]
  exact ⟨date_of_step d hstep, rfl⟩

/-- The wall time at the start of a day means the start of that day. -/
theorem resolve?_of_startOfDay? {z : Zone} {d : Date} {t : ZonedTime}
    (h : z.startOfDay? d = some t) : z.resolve? t.wall = some t := by
  obtain ⟨step, _, ht⟩ := exists_step_of_startOfDay? h
  rw [wall_of_resolve? ht, ht]

end Zone

end FilterQuery
