import FilterQuery.Text.Hex

/-!
# Sets of codes

A set of Unicode codes, as ranges in ascending order that do not touch each
other.  The tables of this library write a set as a text such as
`41-5A 61-7A AA`, with the codes in hexadecimal digits.

`contains` is the view of a set: `contains_union` and `contains_inter` say
what the operations do to it.
-/

namespace FilterQuery.Unicode

open Text

/-- The codes from `first` to `last`. -/
structure CodeRange where
  first : Nat
  last : Nat
  deriving DecidableEq, Repr, Inhabited

/-- A set of codes. -/
structure CodeSet where
  ranges : List CodeRange
  deriving DecidableEq, Repr, Inhabited

/-- The largest code. -/
def maxCode : Nat := 0x10FFFF

namespace CodeRange

/-- Whether a range holds a code. -/
def contains (r : CodeRange) (n : Nat) : Bool := decide (r.first ≤ n ∧ n ≤ r.last)

/-- Whether a code is half of a pair in another encoding, and no character. -/
def isSurrogate (n : Nat) : Bool := decide (0xD800 ≤ n ∧ n ≤ 0xDFFF)

/-- A range without surrogates at its ends, if anything is left of it. -/
def trim? (r : CodeRange) : Option CodeRange :=
  let first := if isSurrogate r.first then 0xE000 else r.first
  let last := if isSurrogate r.last then 0xD7FF else r.last
  if first ≤ last then some ⟨first, last⟩ else none

/-- What two ranges have in common. -/
def inter? (r s : CodeRange) : Option CodeRange :=
  let first := max r.first s.first
  let last := min r.last s.last
  if first ≤ last then some ⟨first, last⟩ else none

/-- Joins a range with those that follow it, as far as they touch. -/
def join (r : CodeRange) : List CodeRange → List CodeRange
  | [] => [r]
  | s :: rest =>
    if s.first ≤ r.last + 1 then join ⟨r.first, max r.last s.last⟩ rest
    else r :: join s rest

/-- The range that a word such as `41-5A` or `AA` writes. -/
def ofWord (word : List Char) : CodeRange :=
  let first := word.takeWhile (· != '-')
  match word.drop first.length with
  | _ :: last => ⟨Hex.number first, Hex.number last⟩
  | [] => ⟨Hex.number first, Hex.number first⟩

end CodeRange

/-- The words of a text, which single blanks divide. -/
def words (text : List Char) : List (List Char) :=
  text.foldr
    (fun c words =>
      match words with
      | word :: rest => if c = ' ' then [] :: word :: rest else (c :: word) :: rest
      | [] => [])
    [[]]

namespace CodeSet

/-- Whether a set holds a code. -/
def contains (s : CodeSet) (n : Nat) : Bool := s.ranges.any (·.contains n)

/-- The set of all codes of several ranges, in any order. -/
def ofRanges (ranges : List CodeRange) : CodeSet :=
  match ranges.mergeSort fun r s => decide (r.first ≤ s.first) with
  | [] => ⟨[]⟩
  | r :: rest => ⟨r.join rest⟩

/-- The set of several codes. -/
def ofCodes (codes : List Nat) : CodeSet := ofRanges (codes.map fun n => ⟨n, n⟩)

/-- The set that the lines of a text write. -/
def ofLines (lines : List String) : CodeSet :=
  ofRanges ((lines.flatMap fun line => words line.toList).map .ofWord)

/-- The set that a text of one line writes. -/
def ofText (text : String) : CodeSet := ofLines [text]

/-- The set without codes. -/
def empty : CodeSet := ⟨[]⟩

/-- The set of all codes. -/
def full : CodeSet := ⟨[⟨0, maxCode⟩]⟩

/-- Whether a set is empty. -/
def isEmpty (s : CodeSet) : Bool := s.ranges.isEmpty

/-- Whether all codes of a set are ASCII characters. -/
def isAscii (s : CodeSet) : Bool := s.ranges.all fun r => decide (r.last < 128)

/-- The only code of a set, if it has one only. -/
def single? (s : CodeSet) : Option Nat :=
  match s.ranges with
  | [r] => if r.first = r.last then some r.first else none
  | _ => none

/-- The codes of either set. -/
def union (a b : CodeSet) : CodeSet := ofRanges (a.ranges ++ b.ranges)

/-- The codes of both sets. -/
def inter (a b : CodeSet) : CodeSet :=
  ⟨a.ranges.flatMap fun r => b.ranges.filterMap r.inter?⟩

/-- The ranges between those of a list, from a code on. -/
def gaps (n : Nat) : List CodeRange → List CodeRange
  | [] => if n ≤ maxCode then [⟨n, maxCode⟩] else []
  | r :: rest =>
    if n < r.first then ⟨n, r.first - 1⟩ :: gaps (r.last + 1) rest else gaps (r.last + 1) rest

/-- The characters that are not in a set. -/
def compl (s : CodeSet) : CodeSet := ⟨(gaps 0 s.ranges).filterMap (·.trim?)⟩

/-- The characters of the first set that are not in the second. -/
def diff (a b : CodeSet) : CodeSet := a.inter b.compl

/-- The characters of exactly one of two sets. -/
def symmDiff (a b : CodeSet) : CodeSet := (a.union b).diff (a.inter b)

/-- The codes of any of several sets. -/
def unions (sets : List CodeSet) : CodeSet := ofRanges (sets.flatMap (·.ranges))

instance : Union CodeSet := ⟨union⟩
instance : Inter CodeSet := ⟨inter⟩
instance : SDiff CodeSet := ⟨diff⟩

end CodeSet

/-! ## What the operations do to the view -/

theorem CodeRange.inter?_contains (r s : CodeRange) (n : Nat) :
    (r.inter? s).any (·.contains n) = (r.contains n && s.contains n) := by
  simp only [inter?, contains, ← Bool.decide_and]
  split
  · exact decide_eq_decide.2 (by grind)
  · symm
    exact decide_eq_false (by grind)

/-- Joining ranges keeps their codes, if they are in ascending order. -/
theorem CodeRange.any_contains_join (n : Nat) (r : CodeRange) (rest : List CodeRange)
    (sorted : (r :: rest).Pairwise fun a b => a.first ≤ b.first) :
    (r.join rest).any (·.contains n) = (r :: rest).any (·.contains n) := by
  induction rest generalizing r with
  | nil => rfl
  | cons s rest ih =>
    obtain ⟨below, tail⟩ := List.pairwise_cons.1 sorted
    have le : r.first ≤ s.first := below s (by simp)
    rw [join]
    split
    · rename_i touch
      have sorted' : (⟨r.first, max r.last s.last⟩ :: rest).Pairwise
          fun a b : CodeRange => a.first ≤ b.first :=
        List.pairwise_cons.2
          ⟨fun t ht => below t (by simp [ht]), (List.pairwise_cons.1 tail).2⟩
      have joined : CodeRange.contains ⟨r.first, max r.last s.last⟩ n =
          (r.contains n || s.contains n) := by
        simp only [contains, ← Bool.decide_or]
        exact decide_eq_decide.2 (by grind)
      rw [ih _ sorted']
      simp only [List.any_cons, joined, Bool.or_assoc]
    · simp only [List.any_cons, ih s tail]

namespace CodeSet

theorem contains_ofRanges (ranges : List CodeRange) (n : Nat) :
    (ofRanges ranges).contains n = ranges.any (·.contains n) := by
  have perm := List.mergeSort_perm ranges fun r s => decide (r.first ≤ s.first)
  have sorted := @List.pairwise_mergeSort CodeRange (fun r s => decide (r.first ≤ s.first))
    (fun a b c => by simp; omega) (fun a b => by simp; omega) ranges
  have any_eq := perm.any_eq (f := (·.contains n))
  rw [ofRanges]
  split
  · rename_i h
    rw [h] at any_eq
    simpa [contains] using any_eq
  · rename_i r rest h
    rw [h] at any_eq sorted
    rw [← any_eq]
    exact CodeRange.any_contains_join n r rest (sorted.imp (by simp))

theorem contains_union (a b : CodeSet) (n : Nat) :
    (a.union b).contains n = (a.contains n || b.contains n) := by
  rw [union, contains_ofRanges]
  simp [contains]

theorem contains_inter (a b : CodeSet) (n : Nat) :
    (a.inter b).contains n = (a.contains n && b.contains n) := by
  rw [Bool.eq_iff_iff]
  simp only [contains, inter, List.any_eq_true, List.mem_flatMap, List.mem_filterMap,
    Bool.and_eq_true]
  constructor
  · rintro ⟨t, ⟨r, hr, s, hs, ht⟩, hn⟩
    have both := CodeRange.inter?_contains r s n
    rw [ht, Option.any_some, hn, eq_comm, Bool.and_eq_true] at both
    exact ⟨⟨r, hr, both.1⟩, ⟨s, hs, both.2⟩⟩
  · rintro ⟨⟨r, hr, hrn⟩, ⟨s, hs, hsn⟩⟩
    have both := CodeRange.inter?_contains r s n
    rw [hrn, hsn, Bool.and_self, Option.any_eq_true] at both
    obtain ⟨t, ht, hn⟩ := both
    exact ⟨t, ⟨r, hr, s, hs, ht⟩, hn⟩

end CodeSet

end FilterQuery.Unicode
