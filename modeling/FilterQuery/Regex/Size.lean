import FilterQuery.Regex.Automaton.Set
import FilterQuery.Regex.Automaton.Words
import FilterQuery.Regex.Term

/-!
# The size of a pattern

A pattern is compiled to two automata, one that reads a text forward and one
that reads it backward.  `Term.fits` says whether both are within the limit.
In them a counted repetition is written out as often as its count says.
-/

namespace FilterQuery.Regex

open Text.Utf8

/-- Adds a repetition of what `body` adds. -/
def Draft.addRepeats? (repeats : Repeats) (isNonempty : Bool) (body : Draft → Option Draft)
    (d : Draft) : Option Draft :=
  let branch (d : Draft) : Option Draft := d.grow? 1 (2 * jumpBytes)
  match repeats.least, repeats.most? with
  | 0, some 1 => do (← body (← branch d)).grow? 1
  | 0, none =>
    if isNonempty then do body (← branch d)
    else do (← branch (← branch (← body d))).grow? 1
  | least, none => do branch (← Draft.iterate? body least d)
  | least, some most =>
    if least = most then Draft.iterate? body least d
    else do
      let d ← if least = 0 then d.grow? 1 else Draft.iterate? body least d
      let d ← d.grow? 1
      Draft.iterate? (fun d => do body (← branch d)) (most - least) d

/-- The bytes of a literal, in the order in which they are read. -/
def literalWord (direction : Direction) (chars : List Char) : List Nat :=
  let word := chars.flatMap fun c => bytes c.toNat
  match direction with
  | .forward => word
  | .backward => word.reverse

/-- The words of several literals, if all terms are such. -/
def literalWords? (direction : Direction) (terms : List Term) : Option (List (List Nat)) :=
  terms.mapM fun
    | .literal chars => some (literalWord direction chars)
    | _ => none

namespace Term

mutual

/-- Adds the states of a term.  Groups capture only where the text is read
forward. -/
def add? (direction : Direction) : Term → Draft → Option Draft
  | .empty, d => d.grow? 1
  | .look _, d => d.grow? 1
  | .literal chars, d => d.grow? (literalBytes chars)
  | .set _ codes, d => d.addSet? direction codes
  | .repetition repeats body, d =>
    d.addRepeats? repeats body.isNonempty fun d => body.add? direction d
  | .capture _ body, d =>
    match direction with
    | .forward => do (← body.add? direction (← d.grow? 1)).grow? 1
    | .backward => body.add? direction d
  | .sequence items, d => addItems? direction items d
  | .alternation branches, d =>
    match literalWords? direction branches with
    | some words => d.addWords? words
    | none => addBranches? direction branches.length 0 branches d

/-- Adds terms one after the other, in the order in which they are read. -/
def addItems? (direction : Direction) : List Term → Draft → Option Draft
  | [], d => some d
  | item :: items, d =>
    match direction with
    | .forward => do addItems? direction items (← item.add? direction d)
    | .backward => do item.add? direction (← addItems? direction items d)

/-- Adds the branches of an alternation.  The state with jumps to all of them
and the one where they meet follow the second. -/
def addBranches? (direction : Direction) (count index : Nat) :
    List Term → Draft → Option Draft
  | [], d => some d
  | branch :: branches, d => do
    let d ← branch.add? direction d
    let d ← if index = 1 then d.grow? 2 (count * jumpBytes) else some d
    addBranches? direction count (index + 1) branches d

end

/-! ## Where a match can begin -/

/-- Whether something holds of a sequence of items at the place where reading
begins, and whether all items are of empty width. -/
structure Front where
  holds : Bool
  isEmptyWidth : Bool

mutual

/-- Whether every match begins at the edge of the text where reading begins. -/
def isAnchored (direction : Direction) : Term → Bool
  | .look l => l.kind == if direction = .forward then .textStart else .textEnd
  | .repetition repeats body => decide (0 < repeats.least) && body.isAnchored direction
  | .capture _ body => body.isAnchored direction
  | .sequence items => (front direction items).holds
  | .alternation branches => areAnchored direction branches
  | _ => false

/-- Whether all of several terms begin at the edge of the text. -/
def areAnchored (direction : Direction) : List Term → Bool
  | [] => true
  | branch :: branches => branch.isAnchored direction && areAnchored direction branches

/-- Whether a sequence begins at the edge of the text: an item does, and those
that are read before it are of empty width. -/
def front (direction : Direction) : List Term → Front
  | [] => ⟨false, true⟩
  | item :: items =>
    let rest := front direction items
    let isAnchored := item.isAnchored direction
    let isEmptyWidth := item.isEmptyWidth
    { holds :=
        match direction with
        | .forward => isAnchored || (isEmptyWidth && rest.holds)
        | .backward => rest.holds || (rest.isEmptyWidth && isAnchored)
      isEmptyWidth := isEmptyWidth && rest.isEmptyWidth }

end

/-! ## Whole patterns -/

/-- The automaton that reads in a direction.  If a match can begin anywhere, it
starts with a loop over all bytes. -/
def automaton? (direction : Direction) (t : Term) : Option Draft := do
  let start : Draft := {}
  let d ← if t.isAnchored direction then start.grow? 1
    else start.grow? 3 (2 * jumpBytes + linkBytes)
  let d ← (Term.capture 0 t).add? direction d
  d.grow? 1

/-- Whether both automata are within the limit. -/
def fits (t : Term) : Bool :=
  (t.automaton? .forward).isSome && (t.automaton? .backward).isSome

end Term

end FilterQuery.Regex
