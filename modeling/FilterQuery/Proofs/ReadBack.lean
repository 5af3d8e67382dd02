import FilterQuery.Proofs.GapWalk
import FilterQuery.Proofs.StandardPattern

/-!
# Dates as they were written

A text that is read as a date is what its pattern writes for that date.  A text
with a time of day comes back from the wall time of the instant.  A date alone
comes back from the date of the instant, because the walk from midnight to the
start of the day ends on the same day, at four o'clock at the latest.

There are two groups.

* The two ways to read a text.  `write?_of_wallTime?` and `write?_of_day?` say
  for each what it writes again.
* Texts.  `read?_written_back` puts them together.  Since a date can be written
  in one way only, two texts that are read alike are the same.
-/

namespace FilterQuery

open Calendar

namespace DateText

/-- The text of a date in a pattern, with a time of day if there is one. -/
def write? (pattern : String) (d : Date) (t? : Option ClockTime) : Option String :=
  ((DatePattern.ofText? pattern).bind (·.write? d t?)).map String.ofList

/-! ## The two ways to read a text -/

theorem write?_of_wallTime? {pattern raw : String} {w : WallTime}
    (h : wallTime? pattern raw = some w) : write? pattern w.date (some w.time) = some raw := by
  obtain ⟨p, hp, hwall⟩ := Option.bind_eq_some_iff.1 h
  rw [write?, hp, Option.bind_some, DatePattern.write?_of_wallTime? hwall, Option.map_some,
    String.ofList_toList]

theorem write?_of_day? {pattern raw : String} {d : Date} (h : day? pattern raw = some d) :
    write? pattern d none = some raw := by
  obtain ⟨p, hp, hday⟩ := Option.bind_eq_some_iff.1 h
  rw [write?, hp, Option.bind_some, DatePattern.write?_of_date? hday, Option.map_some,
    String.ofList_toList]

/-- A text with a time of day is written again for the wall time that clocks
show at its instant. -/
theorem write?_of_read?_some {zone : Zone} {settings : Settings} {raw : String} {w : WallTime}
    {t : ZonedTime} (hwall : wallTime? settings.dateTimeFormat raw = some w)
    (h : read? zone settings raw = some t) :
    write? settings.dateTimeFormat t.wall.date (some t.wall.time) = some raw := by
  have hresolve : zone.resolve? w = some t := by simpa [read?, hwall] using h
  rw [Zone.wall_of_resolve? hresolve]
  exact write?_of_wallTime? hwall

/-- A date alone is written again for the date that clocks show at its instant,
and the time that they show is at most four o'clock. -/
theorem write?_of_read?_none {zone : Zone} {settings : Settings} {raw : String} {t : ZonedTime}
    (hwall : wallTime? settings.dateTimeFormat raw = none)
    (h : read? zone settings raw = some t) :
    write? settings.dateFormat t.wall.date none = some raw ∧
      t.wall.time.second ≤ 4 * 3600 ∧ t.wall.time.nano = 0 := by
  have hday : (day? settings.dateFormat raw).bind zone.startOfDay? = some t := by
    simpa [read?, hwall] using h
  obtain ⟨d, hd, hstart⟩ := Option.bind_eq_some_iff.1 hday
  obtain ⟨hdate, hnano⟩ := Zone.wall_of_startOfDay? hstart
  refine ⟨?_, (Zone.time_of_startOfDay? hstart).1, hnano⟩
  rw [hdate]
  exact write?_of_day? hd

/-- What is read carries the offset of its zone. -/
theorem localize_instant_of_read? {zone : Zone} {settings : Settings} {raw : String}
    {t : ZonedTime} (h : read? zone settings raw = some t) : t = zone.localize t.instant := by
  rw [read?] at h
  split at h
  · obtain ⟨u, _, rfl⟩ := Option.map_eq_some_iff.1 h
    rfl
  · obtain ⟨d, _, hstart⟩ := Option.bind_eq_some_iff.1 h
    obtain ⟨u, _, rfl⟩ := Option.map_eq_some_iff.1 hstart
    rfl

/-! ## Texts -/

/-- A text that is read is the text that one of the patterns writes: the
pattern with a time of day for the wall time, or else, if that pattern does not
read it, the pattern for days for the date, and then the time of day is at most
four o'clock.  So two texts that the same pattern reads as the same instant are
the same text. -/
theorem read?_written_back {zone : Zone} {settings : Settings} {raw : String} {t : ZonedTime}
    (h : read? zone settings raw = some t) :
    (write? settings.dateTimeFormat t.wall.date (some t.wall.time) = some raw ∨
      wallTime? settings.dateTimeFormat raw = none ∧
        write? settings.dateFormat t.wall.date none = some raw ∧
          t.wall.time.second ≤ 4 * 3600 ∧ t.wall.time.nano = 0) ∧
    ∀ raw' t', read? zone settings raw' = some t' → t'.instant = t.instant →
      (wallTime? settings.dateTimeFormat raw').isSome =
        (wallTime? settings.dateTimeFormat raw).isSome → raw' = raw := by
  constructor
  · cases hwall : wallTime? settings.dateTimeFormat raw with
    | some w => exact .inl (write?_of_read?_some hwall h)
    | none => exact .inr ⟨rfl, write?_of_read?_none hwall h⟩
  · intro raw' t' h' hinstant hpattern
    have ht : t' = t := by
      rw [localize_instant_of_read? h', localize_instant_of_read? h, hinstant]
    subst ht
    cases hwall : wallTime? settings.dateTimeFormat raw with
    | some w =>
      rw [hwall] at hpattern
      obtain ⟨w', hwall'⟩ := Option.isSome_iff_exists.1 hpattern
      have hwrite := write?_of_read?_some hwall h
      rw [write?_of_read?_some hwall' h', Option.some_inj] at hwrite
      exact hwrite
    | none =>
      rw [hwall] at hpattern
      have hwall' := Option.isSome_eq_false_iff.1 hpattern
      have hwrite := (write?_of_read?_none hwall h).1
      rw [(write?_of_read?_none (Option.isNone_iff_eq_none.1 hwall') h').1,
        Option.some_inj] at hwrite
      exact hwrite

/-- The theorem at `19/10/2008`, with patterns that put the day first, in a zone
whose clocks went from midnight to one o'clock on that day. -/
theorem read?_written_back_of_skipped_midnight :
    let zone := (ZoneTable.ofChange (-10800) 1224385200 (-7200)).zone
    let settings : Settings := ⟨"%d/%m/%Y", "%d/%m/%Y %H:%M"⟩
    let t : ZonedTime := zone.localize ⟨1224385200, 0, Zone.zero_lt_nanos⟩
    read? zone settings "19/10/2008" = some t ∧
      (write? settings.dateTimeFormat t.wall.date (some t.wall.time) = some "19/10/2008" ∨
        wallTime? settings.dateTimeFormat "19/10/2008" = none ∧
          write? settings.dateFormat t.wall.date none = some "19/10/2008" ∧
            t.wall.time.second ≤ 4 * 3600 ∧ t.wall.time.nano = 0) ∧
      ∀ raw' t', read? zone settings raw' = some t' → t'.instant = t.instant →
        (wallTime? settings.dateTimeFormat raw').isSome =
          (wallTime? settings.dateTimeFormat "19/10/2008").isSome → raw' = "19/10/2008" := by
  intro zone settings t
  have h : read? zone settings "19/10/2008" = some t := by decide +kernel
  exact ⟨h, read?_written_back h⟩

end DateText

end FilterQuery
