import FilterQuery.Regex.Automaton.Draft
import FilterQuery.Regex.Automaton.Memo
import FilterQuery.Text.Utf8

/-!
# Automata for sets of characters

A set of ASCII characters needs one state with a link for each of its ranges.
Any other set is a tree of byte ranges.  An automaton that reads forward shares
the states at which equal trees begin.  One that reads backward shares states
with equal bytes before the same state.
-/

namespace FilterQuery.Regex

open Unicode Text.Utf8

/-- In which direction an automaton reads. -/
inductive Direction where
  | forward | backward
  deriving DecidableEq, Repr, Inhabited

/-- An automaton under construction, and the states that are remembered. -/
structure Sharing where
  draft : Draft
  memo : Memo

/-- The state with some links, each a range of bytes with the state it leads
to. -/
def Sharing.state? (s : Sharing) (links : List (ByteRange × Nat)) : Option (Nat × Sharing) :=
  let key := links.flatMap fun l => [l.1.first, l.1.last, l.2]
  match s.memo.find? key with
  | some state => some (state, s)
  | none => do
    let draft ← s.draft.grow? 1 (linkBytes * links.length)
    return (s.draft.states, ⟨draft, s.memo.insert key s.draft.states⟩)

/-- Sequences by their first byte ranges, as far as equal ones stand side by
side. -/
def byFirst : List (List ByteRange) → List (ByteRange × List (List ByteRange))
  | [] => []
  | [] :: rest => byFirst rest
  | (b :: tail) :: rest =>
    match byFirst rest with
    | (c, tails) :: groups =>
      if b = c then (b, tail :: tails) :: groups else (b, [tail]) :: (c, tails) :: groups
    | [] => [(b, [tail])]

/-- The state at which a tree of byte ranges begins, whose branches all end at
`target`.  `depth` is the number of bytes in the longest branch. -/
def Sharing.tree? (target : Nat) : Nat → List (List ByteRange) → Sharing → Option (Nat × Sharing)
  | 0, _, s => some (target, s)
  | depth + 1, sequences, s =>
    match byFirst sequences with
    | [] => some (target, s)
    | groups => do
      let (links, s) ← groups.foldlM
        (fun (links, s) (b, tails) => do
          let (next, s) ← Sharing.tree? target depth tails s
          return ((b, next) :: links, s))
        (([] : List (ByteRange × Nat)), s)
      s.state? links.reverse

/-- The state with one link, on a range of bytes to a state. -/
def Sharing.before? (b : ByteRange) (next : Nat) (s : Sharing) : Option (Nat × Sharing) :=
  let key := [next, b.first, b.last]
  match s.memo.find? key with
  | some state => some (state, s)
  | none => do
    let draft ← s.draft.grow? 1
    return (s.draft.states, ⟨draft, s.memo.insert key s.draft.states⟩)

/-- Adds a sequence of byte ranges that is read from its last byte on, and a
jump to it. -/
def Sharing.addBackward? (target : Nat) (sequence : List ByteRange) (s : Sharing) :
    Option Sharing := do
  let (_, s) ← sequence.foldlM (fun (next, s) b => s.before? b next) (target, s)
  let draft ← s.draft.grow? 0 jumpBytes
  return { s with draft }

/-- Adds a set of characters. -/
def Draft.addSet? (direction : Direction) (codes : CodeSet) (d : Draft) : Option Draft :=
  if codes.isAscii then d.grow? 2 (linkBytes * codes.ranges.length)
  else
    let encoded := codes.ranges.flatMap sequences
    match direction with
    | .forward => do
      let start ← d.grow? 1
      let (_, s) ← Sharing.tree? d.states 4 encoded ⟨start, { slots := 10000 }⟩
      return s.draft
    | .backward => do
      let start ← d.grow? 2
      let s ← encoded.foldlM (fun s sequence => s.addBackward? (d.states + 1) sequence)
        (Sharing.mk start { slots := 1000 })
      return s.draft

end FilterQuery.Regex
