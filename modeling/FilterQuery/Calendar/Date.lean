/-!
# Calendar dates

The proleptic Gregorian calendar: every integer is a year, and the rule for
leap years holds for all of them.  A `Date` is a day that exists, by the
proof that it carries.  `Date.dayNumber` counts days from 1970-01-01, and
`Date.ofDayNumber` is the date of such a count.
-/

namespace FilterQuery.Calendar

/-- The zero that sums of lengths start from, whatever other zero of `Nat` is in scope. -/
local instance (priority := high) numeralZero : Zero Nat := Zero.ofOfNat0

/-! ## Years and months -/

/-- Whether a year has a 29 February. -/
def isLeap (year : Int) : Bool :=
  decide (year % 4 = 0 ∧ (year % 100 ≠ 0 ∨ year % 400 = 0))

/-- The lengths of the twelve months. -/
def monthLengths (leap : Bool) : List Nat :=
  [31, if leap then 29 else 28, 31, 30, 31, 30, 31, 31, 30, 31, 30, 31]

/-- The length of a month, counted from one, and zero for any other number. -/
def daysInMonth (year : Int) (month : Nat) : Nat :=
  if month = 0 then 0 else ((monthLengths (isLeap year))[month - 1]?).getD 0

/-- The length of a year. -/
def daysInYear (year : Int) : Nat := (monthLengths (isLeap year)).sum

/-- The days of a year before the first of a month. -/
def daysBeforeMonth (year : Int) (month : Nat) : Nat :=
  ((monthLengths (isLeap year)).take (month - 1)).sum

/-- The days from 0000-01-01 to the first day of a year. -/
def daysBeforeYear (year : Int) : Int :=
  365 * year + (year + 3) / 4 - (year + 99) / 100 + (year + 399) / 400

theorem daysInYear_eq (year : Int) :
    daysInYear year = if isLeap year then 366 else 365 := by
  unfold daysInYear
  cases isLeap year <;> rfl

/-- Each year begins when the one before it ends. -/
theorem daysBeforeYear_succ (year : Int) :
    daysBeforeYear (year + 1) = daysBeforeYear year + daysInYear year := by
  rw [daysInYear_eq]
  simp only [daysBeforeYear, isLeap, decide_eq_true_eq]
  split <;> omega

/-- The year of a day counted from 0000-01-01. -/
def yearOfDay (n : Int) : Int :=
  let guess := 400 * n / 146097
  if n < daysBeforeYear guess then guess - 1
  else if daysBeforeYear (guess + 1) ≤ n then guess + 1
  else guess

/-- A day lies in the year that `yearOfDay` gives. -/
theorem daysBeforeYear_yearOfDay (n : Int) :
    daysBeforeYear (yearOfDay n) ≤ n ∧ n < daysBeforeYear (yearOfDay n + 1) := by
  have hlo : daysBeforeYear (400 * n / 146097 - 1) ≤ n := by
    simp only [daysBeforeYear]
    omega
  have hhi : n < daysBeforeYear (400 * n / 146097 + 2) := by
    simp only [daysBeforeYear]
    omega
  unfold yearOfDay
  by_cases h₁ : n < daysBeforeYear (400 * n / 146097)
  · simp only [h₁, if_true]
    exact ⟨hlo, by simpa using h₁⟩
  · by_cases h₂ : daysBeforeYear (400 * n / 146097 + 1) ≤ n
    · simp only [h₁, h₂, if_true, if_false]
      exact ⟨trivial, by simpa [Int.add_assoc] using hhi⟩
    · simp only [h₁, h₂, if_false]
      exact ⟨Int.not_lt.mp h₁, Int.not_le.mp h₂⟩

/-! ## Runs of given lengths -/

/-- Finds a count in consecutive runs: the index of its run and its place
there. -/
def splitRuns : List Nat → Nat → Nat × Nat
  | [], n => (0, n)
  | len :: lens, n =>
    if n < len then (0, n)
    else
      let r := splitRuns lens (n - len)
      (r.1 + 1, r.2)

/-- A count below the total lies inside one of the runs. -/
theorem splitRuns_lt (lens : List Nat) (n : Nat) (h : n < lens.sum) :
    (splitRuns lens n).1 < lens.length ∧
      (splitRuns lens n).2 < (lens[(splitRuns lens n).1]?).getD 0 := by
  induction lens generalizing n with
  | nil => cases h
  | cons len lens ih =>
    rw [splitRuns]
    by_cases hn : n < len
    · simp [hn]
    · have := ih (n - len) (by rw [List.sum_cons] at h; omega)
      simpa [hn] using this

/-- The runs before the one found, and the place there, make up the count. -/
theorem sum_take_splitRuns (lens : List Nat) (n : Nat) :
    (lens.take (splitRuns lens n).1).sum + (splitRuns lens n).2 = n := by
  induction lens generalizing n with
  | nil => simp [splitRuns]
  | cons len lens ih =>
    rw [splitRuns]
    by_cases hn : n < len
    · simp [hn]
    · have := ih (n - len)
      simp only [hn, if_false, List.take_succ_cons, List.sum_cons]
      omega

/-- A place in a run is found again. -/
theorem splitRuns_sum_take {lens : List Nat} {i place : Nat} (h : place < (lens[i]?).getD 0) :
    splitRuns lens ((lens.take i).sum + place) = (i, place) := by
  induction lens generalizing i with
  | nil => simp at h
  | cons len lens ih =>
    cases i with
    | zero =>
      have hplace : place < len := by simpa using h
      simp [splitRuns, hplace]
    | succ i =>
      have hplace : place < (lens[i]?).getD 0 := by simpa using h
      have hrest : len + (lens.take i).sum + place - len = (lens.take i).sum + place := by omega
      have hge : ¬len + (lens.take i).sum + place < len := by omega
      simp [splitRuns, hge, hrest, ih hplace]

/-- A run ends within the total. -/
theorem sum_take_add_getD_le (lens : List Nat) (i : Nat) :
    (lens.take i).sum + (lens[i]?).getD 0 ≤ lens.sum := by
  induction lens generalizing i with
  | nil => simp
  | cons len lens ih =>
    cases i with
    | zero => simp
    | succ i =>
      have := ih i
      simp only [List.take_succ_cons, List.sum_cons, List.getElem?_cons_succ]
      omega

/-- A run ends before the runs after it begin. -/
theorem sum_take_add_getD_le_take (lens : List Nat) {i j : Nat} (h : i < j) :
    (lens.take i).sum + (lens[i]?).getD 0 ≤ (lens.take j).sum := by
  have htake := sum_take_add_getD_le (lens.take j) i
  rwa [List.take_take, Nat.min_eq_left (Nat.le_of_lt h), List.getElem?_take_of_lt h] at htake

/-! ## Dates -/

/-- Whether a year has a day in a month, both counted from one. -/
def IsDate (year : Int) (month day : Nat) : Prop :=
  1 ≤ month ∧ month ≤ 12 ∧ 1 ≤ day ∧ day ≤ daysInMonth year month

instance (year : Int) (month day : Nat) : Decidable (IsDate year month day) :=
  inferInstanceAs (Decidable (_ ∧ _))

/-- A day of the calendar. -/
@[ext]
structure Date where
  year : Int
  month : Nat
  day : Nat
  isDate : IsDate year month day
  deriving DecidableEq

namespace Date

/-- The day of a year, a month and a day of the month, if it exists. -/
def ofParts? (year : Int) (month day : Nat) : Option Date :=
  if h : IsDate year month day then some ⟨year, month, day, h⟩ else none

/-- The day with a number of days before it in its year. -/
def ofDayOfYear (year : Int) (n : Nat) (h : n < daysInYear year) : Date where
  year := year
  month := (splitRuns (monthLengths (isLeap year)) n).1 + 1
  day := (splitRuns (monthLengths (isLeap year)) n).2 + 1
  isDate := by
    have hs := splitRuns_lt (monthLengths (isLeap year)) n h
    have hl : (monthLengths (isLeap year)).length = 12 := rfl
    refine ⟨by omega, by omega, by omega, ?_⟩
    have : daysInMonth year ((splitRuns (monthLengths (isLeap year)) n).1 + 1) =
        ((monthLengths (isLeap year))[(splitRuns (monthLengths (isLeap year)) n).1]?).getD 0 := by
      simp [daysInMonth]
    omega

/-- The day of the year, counted from one. -/
def ordinal (d : Date) : Nat := daysBeforeMonth d.year d.month + d.day

/-- The day of a year with a given ordinal, if the year has it. -/
def ofOrdinal? (year : Int) (ordinal : Nat) : Option Date :=
  if h : 1 ≤ ordinal ∧ ordinal ≤ daysInYear year then
    some (ofDayOfYear year (ordinal - 1) (by omega))
  else none

/-- The days from 0000-01-01 to 1970-01-01. -/
def epoch : Int := 719528

/-- The days from 1970-01-01, negative for the days before it. -/
def dayNumber (d : Date) : Int := daysBeforeYear d.year + d.ordinal - 1 - epoch

/-- The day with a given number. -/
def ofDayNumber (n : Int) : Date :=
  ofDayOfYear (yearOfDay (n + epoch)) (n + epoch - daysBeforeYear (yearOfDay (n + epoch))).toNat (by
    have h := daysBeforeYear_yearOfDay (n + epoch)
    rw [daysBeforeYear_succ] at h
    omega)

/-- The quarter of the year, from 1 to 4. -/
def quarter (d : Date) : Nat := (d.month + 2) / 3

/-- A date is dated by its number. -/
theorem dayNumber_ofDayNumber (n : Int) : (ofDayNumber n).dayNumber = n := by
  have h := daysBeforeYear_yearOfDay (n + epoch)
  have hs := sum_take_splitRuns (monthLengths (isLeap (yearOfDay (n + epoch))))
    (n + epoch - daysBeforeYear (yearOfDay (n + epoch))).toNat
  simp only [dayNumber, ofDayNumber, ofDayOfYear, ordinal, daysBeforeMonth,
    Nat.add_sub_cancel]
  omega

/-- The first year that a date of a query may have. -/
def minYear : Int := -262143

/-- The last year that a date of a query may have. -/
def maxYear : Int := 262142

/-- Whether the year of a date is one that a query may name. -/
def inRange (d : Date) : Bool := decide (minYear ≤ d.year ∧ d.year ≤ maxYear)

end Date

end FilterQuery.Calendar
