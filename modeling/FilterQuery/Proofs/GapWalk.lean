import FilterQuery.Proofs.WallClock
import FilterQuery.Zone.Table

/-!
# Walking out of a gap

Where clocks jump ahead, the wall times in between belong to no instant.  A
day whose midnight is among them starts at the first of the quarter hours
after it that clocks show.  This module says what that walk finds.

There are four groups.

* Wall times that clocks show.  `Zone.Shows` is said with the offsets of the
  zone alone, and `secondOf?_eq_none_iff` and `secondOf?_eq_some_iff` say that
  the zone looks up exactly these wall times and finds the earliest second.
* Instants.  `Zone.IsEarliestOf` is the same for wall times and instants.
* Steps.  `startOfDay?_of_first` and `startOfDay?_eq_none` follow the walk step
  by step.  `Zone.locate?` is the walk from any wall time, of which `resolve?`
  and `startOfDay?` are the two cases that queries use.
* Gaps.  `Zone.IsGap` is a stretch of wall time that clocks skip, and
  `locate?_of_isGap` says where the walk ends.
-/

namespace FilterQuery

open Calendar

theorem Instant.inRange_eq_true_iff {second : Int} :
    inRange second = true ↔ -8334601228800 ≤ second ∧ second ≤ 8210266876799 := by
  have hmin : minSecond = -8334601228800 := by decide
  have hmax : maxSecond = 8210266876799 := by decide
  rw [inRange, decide_eq_true_eq, hmin, hmax]

/-- Midnight at the beginning of a day. -/
def Calendar.Date.midnight (d : Date) : WallTime := ⟨d, .midnight⟩

namespace Zone

/-! ## Wall times that clocks show -/

/-- The wall time that clocks show at a second, as a count of seconds. -/
def clockAt (z : Zone) (u : Int) : Int := u + z.offsetAt u

theorem mem_secondsAt_iff_clockAt {z : Zone} {wall u : Int} :
    u ∈ z.secondsAt wall ↔ z.clockAt u = wall :=
  mem_secondsAt

/-- Clocks show a wall time, and only at seconds in range: one that belongs to a
second out of range too means nothing to the zone. -/
structure Shows (z : Zone) (wall : Int) : Prop where
  somewhere : ∃ u, z.clockAt u = wall
  inRange : ∀ u, z.clockAt u = wall → Instant.inRange u = true

theorem shows_iff (z : Zone) (wall : Int) :
    z.Shows wall ↔ z.secondsAt wall ≠ [] ∧ (z.secondsAt wall).all Instant.inRange = true := by
  constructor
  · intro h
    obtain ⟨u, hu⟩ := h.somewhere
    refine ⟨List.ne_nil_of_mem (mem_secondsAt_iff_clockAt.2 hu), List.all_eq_true.2 ?_⟩
    intro v hv
    exact h.inRange v (mem_secondsAt_iff_clockAt.1 hv)
  · intro ⟨hne, hall⟩
    obtain ⟨u, hu⟩ := List.exists_mem_of_ne_nil _ hne
    refine ⟨⟨u, mem_secondsAt_iff_clockAt.1 hu⟩, ?_⟩
    intro v hv
    exact List.all_eq_true.1 hall v (mem_secondsAt_iff_clockAt.2 hv)

theorem secondOf?_eq_none_iff {z : Zone} {wall : Int} :
    z.secondOf? wall = none ↔ ¬z.Shows wall := by
  rw [shows_iff, secondOf?]
  cases hall : (z.secondsAt wall).all Instant.inRange with
  | false => simp
  | true => cases z.repetition <;> simp

/-- Of the seconds at which clocks show a wall time a zone finds the
earliest. -/
theorem secondOf?_eq_some_iff {z : Zone} (hearliest : z.repetition = .earliest) {wall u : Int} :
    z.secondOf? wall = some u ↔
      z.Shows wall ∧ z.clockAt u = wall ∧ ∀ v, z.clockAt v = wall → u ≤ v := by
  have hmin : (z.secondsAt wall).min? = some u ↔
      z.clockAt u = wall ∧ ∀ v, z.clockAt v = wall → u ≤ v := by
    simp only [List.min?_eq_some_iff, mem_secondsAt_iff_clockAt]
  rw [← hmin, shows_iff, secondOf?, hearliest]
  cases hall : (z.secondsAt wall).all Instant.inRange with
  | false => simp
  | true =>
    have hne : (z.secondsAt wall).min? = some u → z.secondsAt wall ≠ [] := by
      intro h hnil
      rw [hnil] at h
      cases h
    simpa using hne

/-! ## Instants -/

theorem second_wall_localize (z : Zone) (s : Instant) :
    (z.localize s).wall.second = z.clockAt s.second :=
  WallTime.second_ofSecond _ _ _

/-- The earliest instant at which clocks show a wall time. -/
structure IsEarliestOf (z : Zone) (w : WallTime) (t : ZonedTime) : Prop where
  localized : t = z.localize t.instant
  inRange : Instant.inRange t.instant.second = true
  wall : t.wall = w
  earliest : ∀ s : Instant, (z.localize s).wall = w → t.instant.second ≤ s.second

theorem resolve?_eq_none_iff {z : Zone} {w : WallTime} :
    z.resolve? w = none ↔ ¬z.Shows w.second := by
  rw [resolve?, Option.map_eq_none_iff, secondOf?_eq_none_iff]

theorem isEarliestOf_of_resolve? {z : Zone} (hearliest : z.repetition = .earliest)
    {w : WallTime} {t : ZonedTime} (h : z.resolve? w = some t) : z.IsEarliestOf w t := by
  obtain ⟨u, hu, rfl⟩ := Option.map_eq_some_iff.1 h
  obtain ⟨hshows, hclock, hleast⟩ := (secondOf?_eq_some_iff hearliest).1 hu
  refine ⟨rfl, hshows.inRange u hclock, wall_of_resolve? h, ?_⟩
  intro s hs
  apply hleast
  rw [← second_wall_localize, hs]

theorem exists_resolve?_eq_some {z : Zone} {w : WallTime} (h : z.Shows w.second) :
    ∃ t, z.resolve? w = some t := by
  cases hresolve : z.resolve? w with
  | some t => exact ⟨t, rfl⟩
  | none => exact absurd h (resolve?_eq_none_iff.1 hresolve)

/-! ## Steps -/

theorem second_midnight (d : Date) : d.midnight.second = d.dayNumber * secondsPerDay := by
  simp [WallTime.second, Date.midnight, ClockTime.midnight]

theorem second_stepTime (d : Date) (step : Nat) :
    (stepTime d step).second = d.midnight.second + gapStep * step := by
  rw [second_midnight]
  exact WallTime.second_ofSecond _ _ _

theorem stepTime_zero (d : Date) : stepTime d 0 = d.midnight := by
  calc stepTime d 0
      = WallTime.ofSecond d.midnight.second 0 zero_lt_nanos := by simp [stepTime, second_midnight]
    _ = d.midnight := WallTime.ofSecond_second d.midnight

theorem time_of_step (d : Date) {step : Nat} (h : step ≤ maxGapSteps) :
    (stepTime d step).time.second = 15 * 60 * step := by
  have hsecond := second_stepTime d step
  rw [second_midnight, WallTime.second, date_of_step d h] at hsecond
  simp only [gapStep] at hsecond
  omega

/-- Clocks show a quarter of an hour at the start of a day, four o'clock at the
latest. -/
theorem time_of_startOfDay? {z : Zone} {d : Date} {t : ZonedTime} (h : z.startOfDay? d = some t) :
    t.wall.time.second ≤ 4 * 3600 ∧ 15 * 60 ∣ t.wall.time.second := by
  obtain ⟨step, hstep, hresolve⟩ := exists_step_of_startOfDay? h
  have htime : t.wall.time.second = 15 * 60 * step := by
    rw [wall_of_resolve? hresolve, time_of_step d hstep]
  refine ⟨?_, ⟨step, htime⟩⟩
  rw [htime]
  simp only [maxGapSteps] at hstep
  omega

/-- The start of a day is what the first of its steps means that means
anything. -/
theorem startOfDay?_eq (z : Zone) (d : Date) :
    z.startOfDay? d =
      (List.range (maxGapSteps + 1)).findSome? fun step => z.resolve? (stepTime d step) := by
  rw [startOfDay?, List.map_findSome?]
  congr 1
  funext step
  rw [Function.comp_apply, resolve?, second_stepTime, second_midnight]
  rfl

theorem findSome?_congr {α β : Type} {f g : α → Option β} {l : List α}
    (h : ∀ a ∈ l, f a = g a) : l.findSome? f = l.findSome? g := by
  induction l with
  | nil => rfl
  | cons a l ih =>
    have hrest := ih fun b hb => h b (List.mem_cons_of_mem a hb)
    rw [List.findSome?_cons, List.findSome?_cons, h a List.mem_cons_self, hrest]

/-- A search through the first numbers finds the first that has something. -/
theorem findSome?_range_of_first {β : Type} {f : Nat → Option β} {n k : Nat} {b : β}
    (hk : k < n) (hsome : f k = some b) (hnone : ∀ j < k, f j = none) :
    (List.range n).findSome? f = some b := by
  induction n with
  | zero => omega
  | succ n ih =>
    rw [List.range_succ, List.findSome?_append]
    by_cases hlast : k = n
    · subst hlast
      have hbefore : (List.range k).findSome? f = none :=
        List.findSome?_eq_none_iff.2 fun j hj => hnone j (List.mem_range.1 hj)
      simp [hbefore, hsome]
    · rw [ih (by omega)]
      rfl

theorem startOfDay?_of_first {z : Zone} {d : Date} {step : Nat} {t : ZonedTime}
    (hstep : step ≤ maxGapSteps) (hsome : z.resolve? (stepTime d step) = some t)
    (hnone : ∀ earlier < step, z.resolve? (stepTime d earlier) = none) :
    z.startOfDay? d = some t := by
  rw [startOfDay?_eq]
  exact findSome?_range_of_first (Nat.lt_succ_of_le hstep) hsome hnone

theorem startOfDay?_eq_none {z : Zone} {d : Date}
    (h : ∀ step ≤ maxGapSteps, z.resolve? (stepTime d step) = none) : z.startOfDay? d = none := by
  rw [startOfDay?_eq, List.findSome?_eq_none_iff]
  intro step hstep
  exact h step (Nat.le_of_lt_succ (List.mem_range.1 hstep))

/-- The wall time a number of steps later, if a date may be that late.  A leap
second is left behind. -/
def later? (w : WallTime) (step : Nat) : Option WallTime :=
  let later := WallTime.ofSecond (w.second + gapStep * step) (w.time.nano % nanosPerSecond)
    (Nat.lt_of_lt_of_le (Nat.mod_lt _ (by decide)) (by decide))
  if later.date.inRange then some later else none

/-- The instant that is meant by a wall time.  With `skipGap` a wall time that
clocks do not show means what the first of the following steps means that
means anything. -/
def locate? (z : Zone) (skipGap : Bool) (w : WallTime) : Option ZonedTime :=
  match z.resolve? w with
  | some t => some t
  | none =>
    if skipGap then
      (List.range maxGapSteps).findSome? fun i => (later? w (i + 1)).bind z.resolve?
    else none

theorem locate?_of_resolve? {z : Zone} {w : WallTime} {t : ZonedTime} (h : z.resolve? w = some t)
    (skipGap : Bool) : z.locate? skipGap w = some t := by
  rw [locate?, h]

/-- A date with a time of day is located without skipping. -/
theorem locate?_false (z : Zone) (w : WallTime) : z.locate? false w = z.resolve? w := by
  rw [locate?]
  cases z.resolve? w <;> rfl

theorem later?_midnight {d : Date} (hd : d.inRange = true) {step : Nat}
    (hstep : step ≤ maxGapSteps) : later? d.midnight step = some (stepTime d step) := by
  have hlater : WallTime.ofSecond (d.midnight.second + gapStep * step) 0 zero_lt_nanos =
      stepTime d step := by
    rw [second_midnight]
    rfl
  have hguard : later? d.midnight step =
      if (stepTime d step).date.inRange then some (stepTime d step) else none := by
    rw [← hlater]
    rfl
  rw [hguard, date_of_step d hstep, if_pos hd]

/-- A date alone is located with skipping. -/
theorem locate?_midnight (z : Zone) {d : Date} (hd : d.inRange = true) :
    z.locate? true d.midnight = z.startOfDay? d := by
  have hrest : ∀ i ∈ List.range maxGapSteps,
      (later? d.midnight (i + 1)).bind z.resolve? = z.resolve? (stepTime d (i + 1)) := by
    intro i hi
    rw [later?_midnight hd (List.mem_range.1 hi), Option.bind_some]
  rw [startOfDay?_eq, List.range_succ_eq_map, List.findSome?_cons, List.findSome?_map,
    stepTime_zero, locate?]
  cases z.resolve? d.midnight with
  | some t => rfl
  | none => exact findSome?_congr hrest

/-! ## Gaps -/

/-- Clocks skip the wall times from `start` up to `stop` and show the quarter
of an hour from `stop` on. -/
structure IsGap (z : Zone) (start stop : Int) : Prop where
  lt : start < stop
  skipped : ∀ wall, start ≤ wall → wall < stop → ¬z.Shows wall
  shown : ∀ wall, stop ≤ wall → wall < stop + 15 * 60 → z.Shows wall

/-- The steps before the end of a gap find nothing. -/
theorem IsGap.resolve?_eq_none {z : Zone} {d : Date} {stop : Int}
    (h : z.IsGap d.midnight.second stop) {step : Nat}
    (hstep : d.midnight.second + gapStep * step < stop) :
    z.resolve? (stepTime d step) = none := by
  rw [resolve?_eq_none_iff, second_stepTime]
  refine h.skipped _ ?_ hstep
  simp only [gapStep]
  omega

/-- The walk out of a gap ends at the first step that is not before its end. -/
theorem IsGap.startOfDay? {z : Zone} {d : Date} {stop : Int}
    (h : z.IsGap d.midnight.second stop) (hle : stop - d.midnight.second ≤ 4 * 3600) :
    ∃ t, z.startOfDay? d = some t ∧ z.resolve? t.wall = some t ∧ t.wall.time.nano = 0 ∧
      stop ≤ t.wall.second ∧ t.wall.second < stop + 15 * 60 ∧
        (15 * 60 ∣ stop - d.midnight.second → t.wall.second = stop) := by
  -- The step that ends the walk is the length of the gap in quarters, rounded up.
  obtain ⟨step, hstep⟩ : ∃ step : Nat,
      (step : Int) = (stop - d.midnight.second + (15 * 60 - 1)) / (15 * 60) := by
    have hlt := h.lt
    exact ⟨((stop - d.midnight.second + (15 * 60 - 1)) / (15 * 60)).toNat, by omega⟩
  have hsecond : (stepTime d step).second = d.midnight.second + gapStep * step :=
    second_stepTime d step
  have hreach : stop ≤ (stepTime d step).second ∧ (stepTime d step).second < stop + 15 * 60 := by
    rw [hsecond]
    simp only [gapStep]
    omega
  obtain ⟨t, ht⟩ := exists_resolve?_eq_some (h.shown _ hreach.1 hreach.2)
  have hwall := wall_of_resolve? ht
  have hbefore : ∀ earlier < step, z.resolve? (stepTime d earlier) = none := by
    intro earlier hearlier
    apply h.resolve?_eq_none
    simp only [gapStep]
    omega
  have hstart : z.startOfDay? d = some t :=
    startOfDay?_of_first (by simp only [maxGapSteps]; omega) ht hbefore
  refine ⟨t, hstart, by rw [hwall, ht], by rw [hwall]; rfl, ?_⟩
  rw [hwall]
  refine ⟨hreach.1, hreach.2, ?_⟩
  intro hdvd
  rw [hsecond]
  simp only [gapStep]
  omega

/-- Four hours after midnight the walk gives up. -/
theorem IsGap.startOfDay?_eq_none {z : Zone} {d : Date} {stop : Int}
    (h : z.IsGap d.midnight.second stop) (hlt : 4 * 3600 < stop - d.midnight.second) :
    z.startOfDay? d = none := by
  apply Zone.startOfDay?_eq_none
  intro step hstep
  apply h.resolve?_eq_none
  simp only [gapStep, maxGapSteps] at *
  omega

/-- What a wall time means in a zone that prefers the earliest instant.  A
midnight in a gap of up to four hours means the earliest instant of a wall time
in the quarter of an hour after the gap, and of its end if that is on the
quarter; in a longer gap it means nothing.  Without skipping every wall time
that clocks do not show means nothing, and one that they show always means its
earliest instant.  The two cases of this that queries use are the last ones. -/
theorem locate?_of_isGap (z : Zone) (hearliest : z.repetition = .earliest) :
    (∀ (d : Date) (stop : Int), d.inRange = true → z.IsGap d.midnight.second stop →
      (stop - d.midnight.second ≤ 4 * 3600 →
        ∃ t, z.locate? true d.midnight = some t ∧ z.IsEarliestOf t.wall t ∧
          t.wall.time.nano = 0 ∧ stop ≤ t.wall.second ∧ t.wall.second < stop + 15 * 60 ∧
          (15 * 60 ∣ stop - d.midnight.second → t.wall.second = stop)) ∧
      (4 * 3600 < stop - d.midnight.second → z.locate? true d.midnight = none)) ∧
    (∀ w, ¬z.Shows w.second → z.locate? false w = none) ∧
    (∀ w skipGap, z.Shows w.second →
      ∃ t, z.locate? skipGap w = some t ∧ z.IsEarliestOf w t) ∧
    (∀ w, z.locate? false w = z.resolve? w) ∧
    (∀ d : Date, d.inRange = true → z.locate? true d.midnight = z.startOfDay? d) := by
  refine ⟨?_, ?_, ?_, locate?_false z, fun d hd => locate?_midnight z hd⟩
  · intro d stop hd hgap
    rw [locate?_midnight z hd]
    refine ⟨?_, hgap.startOfDay?_eq_none⟩
    intro hle
    obtain ⟨t, hstart, hresolve, hbounds⟩ := hgap.startOfDay? hle
    exact ⟨t, hstart, isEarliestOf_of_resolve? hearliest hresolve, hbounds⟩
  · intro w hw
    rw [locate?_false, resolve?_eq_none_iff]
    exact hw
  · intro w skipGap hw
    obtain ⟨t, ht⟩ := exists_resolve?_eq_some hw
    exact ⟨t, locate?_of_resolve? ht skipGap, isEarliestOf_of_resolve? hearliest ht⟩

end Zone

/-- The table of a zone whose clocks change once. -/
def ZoneTable.ofChange (initial second offset : Int) : ZoneTable :=
  ⟨initial, [⟨second, offset⟩]⟩

theorem ZoneTable.clockAt_ofChange {initial second offset : Int} (u : Int) :
    (ofChange initial second offset).zone.clockAt u =
      u + if second ≤ u then offset else initial :=
  rfl

namespace Zone

/-- The theorem in a zone whose clocks were put ahead by 28 seconds at midnight:
the walk ends in the quarter of an hour after the gap. -/
theorem locate?_of_28_second_gap :
    let z := (ZoneTable.ofChange 4772 (-1025745572) 4800).zone
    let d : Date := ⟨1937, 7, 1, by decide⟩
    z.repetition = .earliest ∧ d.inRange = true ∧
      z.IsGap d.midnight.second (d.midnight.second + 28) ∧
      ∃ t, z.locate? true d.midnight = some t ∧ z.IsEarliestOf t.wall t ∧
        t.wall.time.nano = 0 ∧ d.midnight.second + 28 ≤ t.wall.second ∧
        t.wall.second < d.midnight.second + 28 + 15 * 60 ∧
        (15 * 60 ∣ d.midnight.second + 28 - d.midnight.second →
          t.wall.second = d.midnight.second + 28) := by
  intro z d
  have hmidnight : d.midnight.second = -1025740800 := by decide
  have hgap : z.IsGap d.midnight.second (d.midnight.second + 28) := by
    rw [hmidnight]
    refine ⟨by decide, ?_, ?_⟩
    · intro wall hstart hstop hshows
      obtain ⟨u, hu⟩ := hshows.somewhere
      rw [ZoneTable.clockAt_ofChange] at hu
      split at hu <;> omega
    · intro wall hstop hquarter
      refine ⟨⟨wall - 4800, ?_⟩, ?_⟩
      · rw [ZoneTable.clockAt_ofChange, if_pos (by omega)]
        omega
      · intro u hu
        rw [ZoneTable.clockAt_ofChange] at hu
        apply Instant.inRange_eq_true_iff.2
        split at hu <;> omega
  exact ⟨rfl, by decide, hgap, ((locate?_of_isGap z rfl).1 d _ (by decide) hgap).1 (by omega)⟩

end Zone

end FilterQuery
