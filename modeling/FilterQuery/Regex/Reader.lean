import FilterQuery.Regex.Bracket
import FilterQuery.Regex.Group
import FilterQuery.Regex.Repetition

/-!
# Reading regular expressions

`Node.ofText` reads the tree of a pattern.  The reader keeps the groups and
the alternations that are still open on a stack, and the items of the
innermost one beside it.
-/

namespace FilterQuery.Regex

/-- A group or an alternation that is still open. -/
inductive OpenNode where
  /-- A group: its parenthesis, its flags, whether it captures, whether the
  pattern around it is extended, and the items read there with the place of
  the first. -/
  | group (opening : Span) (changes : List FlagChange) (captures : Bool) (extended : Bool)
      (start : Nat) (reversed : List Node)
  /-- The branches of an alternation, the last one first. -/
  | alternation (start : Nat) (reversed : List Node)
  deriving Inhabited

/-- How far a pattern has been read. -/
structure ReadState where
  cursor : Cursor
  /-- Whether blanks and comments are ignored. -/
  extended : Bool := false
  names : GroupNames := []
  stack : List OpenNode := []
  /-- Where the items of the innermost group or branch begin. -/
  start : Nat := 0
  /-- Those items, the last one first. -/
  reversed : List Node := []
  deriving Inhabited

namespace ReadState

/-- The items read so far as one pattern that ends at the cursor. -/
def items (s : ReadState) : Node :=
  .ofItems (s.cursor.spanFrom s.start) s.reversed.reverse

/-- Adds an item that ends at a cursor. -/
def push (s : ReadState) (item : Node) (after : Cursor) : ReadState :=
  { s with cursor := after, reversed := item :: s.reversed }

/-- The innermost group or the whole pattern, with the alternation that ends
it closed, and what is open around it. -/
def finishBranches (s : ReadState) : Node × List OpenNode :=
  match s.stack with
  | .alternation start branches :: stack =>
    (.alternation (s.cursor.spanFrom start) (s.items :: branches).reverse, stack)
  | stack => (s.items, stack)

/-- Ends a branch, with the cursor on a bar. -/
def pushBranch (s : ReadState) : ReadState :=
  let after := s.cursor.next
  let stack :=
    match s.stack with
    | .alternation start branches :: stack => .alternation start (s.items :: branches) :: stack
    | stack => .alternation s.start [s.items] :: stack
  { s with cursor := after, stack, start := after.pos, reversed := [] }

/-- Begins a group or sets flags, with the cursor on an opening
parenthesis. -/
def openParen (s : ReadState) : Except Error ReadState := do
  let (opening, names, after) ← readOpeningParen s.extended s.names s.cursor
  match opening with
  | .flags span changes =>
    let extended := (FlagChange.value? changes .ignoreBlanks).getD s.extended
    return { s with names, extended }.push (.flags span changes) after
  | .group span changes captures =>
    return { s with
      cursor := after
      extended := (FlagChange.value? changes .ignoreBlanks).getD s.extended
      names
      stack := .group span changes captures s.extended s.start s.reversed :: s.stack
      start := after.pos
      reversed := [] }

/-- Ends a group, with the cursor on a closing parenthesis. -/
def closeParen (s : ReadState) : Except Error ReadState :=
  match s.finishBranches with
  | (body, .group opening changes captures extended start reversed :: stack) =>
    let after := s.cursor.next
    let group := Node.group (after.spanFrom opening.start) changes captures body
    .ok { s with cursor := after, extended, stack, start, reversed := group :: reversed }
  | _ => fail .groupUnopened s.cursor.charSpan

/-- Puts a repetition in the place of the last item. -/
def pushRepetition (s : ReadState) (repeats : Repeats) (after : Cursor) (item : Node)
    (reversed : List Node) : ReadState :=
  let node := Node.repetition (after.spanFrom item.span.start) repeats item
  { s with cursor := after, reversed := node :: reversed }

/-- Reads a repetition, with the cursor on its operator.  There must be an
item to repeat, and flags cannot repeat. -/
def readRepetition (s : ReadState) (operator : Char) : Except Error ReadState :=
  let simple (least : Nat) (most? : Option Nat) : Except Error (Repeats × Cursor) :=
    .ok (readLazyMark least most? s.cursor.next)
  match s.reversed with
  | [] | .empty _ :: _ | .flags _ _ :: _ => fail .repetitionMissing s.cursor.here
  | item :: reversed => do
    let (repeats, after) ←
      match operator with
      | '?' => simple 0 (some 1)
      | '*' => simple 0 none
      | '+' => simple 1 none
      | _ => readRepeats s.extended s.cursor
    return s.pushRepetition repeats after item reversed

/-- Reads one item or operator, with the cursor on its first character. -/
def step (s : ReadState) (c : Char) : Except Error ReadState :=
  match c with
  | '(' => s.openParen
  | ')' => s.closeParen
  | '|' => .ok s.pushBranch
  | '[' => do
    let (set, after) ← readClass s.extended s.cursor
    return s.push (.charSet set) after
  | '?' | '*' | '+' | '{' => s.readRepetition c
  | '\\' => do
    let (atom, after) ← readEscape s.extended s.cursor
    return s.push atom.node after
  | '.' => .ok (s.push (.anyChar s.cursor.charSpan) s.cursor.next)
  | '^' => .ok (s.push (.assertion s.cursor.charSpan .lineStart) s.cursor.next)
  | '$' => .ok (s.push (.assertion s.cursor.charSpan .lineEnd) s.cursor.next)
  | c => .ok (s.push (.literal ⟨s.cursor.charSpan, c, false⟩) s.cursor.next)

/-- Ends the pattern.  No group may be open. -/
def finish (s : ReadState) : Except Error Node :=
  match s.finishBranches with
  | (node, []) => .ok node
  | (_, .group opening _ _ _ _ _ :: _) => fail .groupUnclosed opening
  | (_, .alternation start _ :: _) => fail .groupUnclosed (s.cursor.spanFrom start)

/-- Reads items up to the end of the pattern.  Every round takes at least one
character, so `fuel` need not exceed their number. -/
def run : Nat → ReadState → Except Error Node
  | 0, s => s.finish
  | fuel + 1, s =>
    let cursor := s.cursor.skip s.extended
    let s := { s with cursor }
    match cursor.char? with
    | none => s.finish
    | some c => do run fuel (← s.step c)

end ReadState

/-- The tree of a pattern, or the first error in it from left to right. -/
def Node.ofText (text : List Char) : Except Error Node :=
  ReadState.run (text.length + 1) { cursor := .ofText text }

end FilterQuery.Regex
