import FilterQuery.Calendar.Text

/-!
# Time zones

An instant is a count of seconds in universal time.  A zone gives every
instant an offset, and so a wall time.  The other way round is not a
function: around a change of the offset a wall time can belong to no instant
or to more than one.  `Zone.secondOf?` settles that: of the instants with a
given wall time it takes the one that the zone prefers.
-/

namespace FilterQuery

open Calendar

/-- A point in time: seconds and nanoseconds since 1970-01-01 in universal
time.  A leap second has at least a whole second of nanoseconds. -/
@[ext]
structure Instant where
  second : Int
  nano : Nat
  nano_lt : nano < 2 * nanosPerSecond

namespace Instant

instance : DecidableEq Instant := fun _ _ => decidable_of_iff' _ Instant.ext_iff

/-- The first second of the first year that a date may have. -/
def minSecond : Int := (daysBeforeYear Date.minYear - Date.epoch) * secondsPerDay

/-- The last second of the last year that a date may have. -/
def maxSecond : Int := (daysBeforeYear (Date.maxYear + 1) - Date.epoch) * secondsPerDay - 1

/-- Whether a second lies in the years that dates may have. -/
def inRange (second : Int) : Bool := decide (minSecond ≤ second ∧ second ≤ maxSecond)

/-- The instant at a second and a nanosecond, if the nanoseconds are fewer
than two seconds and the second lies in range. -/
def ofParts? (second : Int) (nano : Nat) : Option Instant :=
  if h : nano < 2 * nanosPerSecond then
    if inRange second then some ⟨second, nano, h⟩ else none
  else none

end Instant

/-- An instant with the offset, in seconds east of universal time, that was in
force where it was read. -/
structure ZonedTime where
  instant : Instant
  offset : Int
  deriving DecidableEq

namespace ZonedTime

/-- What a wall clock showed at that instant. -/
def wall (t : ZonedTime) : WallTime :=
  WallTime.ofSecond (t.instant.second + t.offset) t.instant.nano t.instant.nano_lt

/-- Date, time of day and offset. -/
def text (t : ZonedTime) : String :=
  String.ofList (t.wall.date.text ++ ' ' :: (t.wall.time.text ++ ' ' :: offsetText t.offset))

end ZonedTime

/-- Which instant is meant by a wall time that clocks show more than once. -/
inductive Repetition where
  | earliest
  | latest
  deriving DecidableEq, Repr, Inhabited

/-- A time zone with finitely many offsets. -/
structure Zone where
  /-- The offset in force at a second of universal time. -/
  offsetAt : Int → Int
  /-- Every offset that the zone ever has. -/
  offsets : List Int
  repetition : Repetition := .earliest
  offsetAt_mem : ∀ second, offsetAt second ∈ offsets

namespace Zone

/-- The instant with its offset in this zone. -/
def localize (z : Zone) (t : Instant) : ZonedTime := ⟨t, z.offsetAt t.second⟩

/-- The seconds at which clocks in the zone show the wall time `wall`. -/
def secondsAt (z : Zone) (wall : Int) : List Int :=
  (z.offsets.map (wall - ·)).filter fun u => decide (u + z.offsetAt u = wall)

/-- A second is found exactly if it shows that wall time. -/
theorem mem_secondsAt {z : Zone} {wall u : Int} :
    u ∈ z.secondsAt wall ↔ u + z.offsetAt u = wall := by
  simp only [secondsAt, List.mem_filter, List.mem_map, decide_eq_true_eq]
  constructor
  · exact fun h => h.2
  · intro h
    exact ⟨⟨z.offsetAt u, z.offsetAt_mem u, by omega⟩, h⟩

/-- The second that is meant by a wall time, if clocks ever show it.  A wall
time that belongs to a second out of range means nothing, even if it belongs
to another one in range. -/
def secondOf? (z : Zone) (wall : Int) : Option Int :=
  let seconds := z.secondsAt wall
  if seconds.all Instant.inRange then
    match z.repetition with
    | .earliest => seconds.min?
    | .latest => seconds.max?
  else none

/-- The instant that is meant by a wall time, with its offset.  A leap second
resolves like the second before it. -/
def resolve? (z : Zone) (w : WallTime) : Option ZonedTime :=
  (z.secondOf? w.second).map fun u => z.localize ⟨u, w.time.nano, w.time.nano_lt⟩

/-- The step in which the start of a day is looked for. -/
def gapStep : Int := 900

/-- How many steps after midnight the start of a day may be. -/
def maxGapSteps : Nat := 16

/-- The start of a day: midnight, or where clocks skip midnight the first
quarter of an hour after it that they show, at most four hours later. -/
def startOfDay? (z : Zone) (d : Date) : Option ZonedTime :=
  ((List.range (maxGapSteps + 1)).findSome? fun (step : Nat) =>
      z.secondOf? (d.dayNumber * secondsPerDay + gapStep * step)).map
    fun u => z.localize ⟨u, 0, ClockTime.midnight.nano_lt⟩

end Zone

end FilterQuery
