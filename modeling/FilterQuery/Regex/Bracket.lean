import FilterQuery.Regex.Escape

/-!
# Bracketed classes

A class in brackets is a set of characters: single characters, ranges, named
classes and further classes in brackets, combined by operators.  The reader
keeps the classes that are still open on a stack, each with the items read
before it, and operators with their left operands.
-/

namespace FilterQuery.Regex

open Unicode

/-! ## Items under construction -/

/-- The items of a set, the last one first, and the stretch they take up. -/
structure Items where
  span : Span
  reversed : List CharSet := []
  deriving Inhabited

namespace Items

/-- No items, at a place of the pattern. -/
def startingAt (pos : Nat) : Items := { span := ⟨pos, pos⟩ }

/-- Adds an item at the end. -/
def push (items : Items) (item : CharSet) : Items where
  span := ⟨if items.reversed.isEmpty then item.span.start else items.span.start, item.span.stop⟩
  reversed := item :: items.reversed

/-- The set of all items. -/
def charSet (items : Items) : CharSet :=
  match items.reversed with
  | [] => .empty items.span
  | [item] => item
  | reversed => .union items.span reversed.reverse

end Items

/-- Something that a closing bracket or an operator has to finish. -/
inductive OpenSet where
  /-- An open class: the items before it, its opening part, and whether it is
  negated. -/
  | bracket (before : Items) (opening : Span) (negated : Bool)
  /-- An operator with its left operand. -/
  | operator (op : SetOperator) (lhs : CharSet)
  deriving Inhabited

/-- Gives the operator on top of the stack, if there is one, its right
operand. -/
def finishOperator (stack : List OpenSet) (rhs : CharSet) : CharSet × List OpenSet :=
  match stack with
  | .operator op lhs :: stack =>
    (.combine ⟨lhs.span.start, rhs.span.stop⟩ op lhs rhs, stack)
  | stack => (rhs, stack)

/-- The error of a pattern that ends inside a class points to the opening part
of the innermost open class. -/
def unclosedClass {α : Type} (stack : List OpenSet) (c : Cursor) : Except Error α :=
  let opening? := stack.findSome? fun
    | .bracket _ opening _ => some opening
    | .operator _ _ => none
  fail .classUnclosed (opening?.getD c.here)

/-! ## Named classes -/

/-- The class with a name between colons. -/
def posixClass? (name : List Char) : Option CodeSet :=
  match String.ofList name with
  | "alnum" => some (.ofText "30-39 41-5A 61-7A")
  | "alpha" => some (.ofText "41-5A 61-7A")
  | "ascii" => some (.ofText "0-7F")
  | "blank" => some (.ofText "9 20")
  | "cntrl" => some (.ofText "0-1F 7F")
  | "digit" => some (.ofText "30-39")
  | "graph" => some (.ofText "21-7E")
  | "lower" => some (.ofText "61-7A")
  | "print" => some (.ofText "20-7E")
  | "punct" => some (.ofText "21-2F 3A-40 5B-60 7B-7E")
  | "space" => some (.ofText "9-D 20")
  | "upper" => some (.ofText "41-5A")
  | "word" => some (.ofText "30-39 41-5A 5F 61-7A")
  | "xdigit" => some (.ofText "30-39 41-46 61-66")
  | _ => none

/-- Reads a named class, with the cursor on its bracket.  Anything else there
is no error: the bracket then opens a plain class. -/
def readPosix? (c : Cursor) : Option (CharSet × Cursor) :=
  match c.rest with
  | '[' :: ':' :: rest =>
    let (negated, body) :=
      match rest with
      | '^' :: body => (true, body)
      | body => (false, body)
    let name := body.takeWhile (· != ':')
    match body.drop name.length with
    | ':' :: ']' :: after =>
      (posixClass? name).map fun codes =>
        let stop := c.pos + (c.rest.length - after.length)
        (.posix ⟨c.pos, stop⟩ negated codes, ⟨after, stop⟩)
    | _ => none
  | _ => none

/-! ## The opening part -/

/-- A character of a class that stands for itself. -/
def plainItem (c : Cursor) (char : Char) : CharSet := .literal ⟨c.charSpan, char, false⟩

/-- Reads hyphens at the beginning of a class, which stand for themselves, for
at most `fuel` of them. -/
def readHyphens (extended : Bool) (start : Nat) :
    Nat → Items → Cursor → Except Error (Items × Cursor)
  | 0, items, c => .ok (items, c)
  | fuel + 1, items, c =>
    if c.char? = some '-' then
      let after := c.step extended
      if after.atEnd then fail .classUnclosed ⟨start, start⟩
      else readHyphens extended start fuel (items.push (plainItem c '-')) after
    else .ok (items, c)

/-- Reads the opening part of a class: the bracket, a circumflex that negates
it, and hyphens or a closing bracket that stand for themselves there. -/
def readOpening (extended : Bool) (c : Cursor) : Except Error (Span × Bool × Items × Cursor) := do
  let start := c.pos
  let first := c.step extended
  if first.atEnd then fail .classUnclosed (first.spanFrom start) else
  let negated := first.char? == some '^'
  let body := if negated then first.step extended else first
  if body.atEnd then fail .classUnclosed (body.spanFrom start) else
  let (items, c) ← readHyphens extended start body.rest.length (.startingAt body.pos) body
  if items.reversed.isEmpty && c.char? == some ']' then
    let after := c.step extended
    if after.atEnd then fail .classUnclosed (after.spanFrom start)
    else return (after.spanFrom start, negated, items.push (plainItem c ']'), after)
  else return (c.spanFrom start, negated, items, c)

/-! ## Items and ranges -/

/-- Reads an escape or a single character of a class. -/
def readSetAtom (extended : Bool) (c : Cursor) (char : Char) : Except Error (Atom × Cursor) :=
  if char = '\\' then readEscape extended c
  else .ok (.literal ⟨c.charSpan, char, false⟩, c.next)

/-- Reads a single item or a range.  A hyphen before a closing bracket or
before another hyphen makes no range. -/
def readRange (extended : Bool) (stack : List OpenSet) (c : Cursor) (char : Char) :
    Except Error (CharSet × Cursor) := do
  let (first, afterFirst) ← readSetAtom extended c char
  let hyphen := afterFirst.skip extended
  if hyphen.atEnd then unclosedClass stack hyphen else
  let next? := hyphen.peek? extended
  if hyphen.char? != some '-' || next? == some ']' || next? == some '-' then
    return (← first.charSet, hyphen)
  else
    let second := hyphen.step extended
    match second.char? with
    | none => unclosedClass stack second
    | some char =>
      let (last, after) ← readSetAtom extended second char
      let span : Span := ⟨first.span.start, last.span.stop⟩
      let low ← first.boundary
      let high ← last.boundary
      if high.char < low.char then fail .classRangeReversed span
      else return (.range span low high, after)

/-- The operator at the cursor. -/
def operator? (c : Cursor) : Option SetOperator :=
  match c.rest with
  | '&' :: '&' :: _ => some .intersection
  | '-' :: '-' :: _ => some .difference
  | '~' :: '~' :: _ => some .symmetricDifference
  | _ => none

/-! ## Whole classes -/

/-- Reads a class up to the bracket that closes the outermost one.  Every
round takes at least one character, so `fuel` need not exceed their number. -/
def readClassFor (extended : Bool) :
    Nat → List OpenSet → Items → Cursor → Except Error (CharSet × Cursor)
  | 0, stack, _, c => unclosedClass stack c
  | fuel + 1, stack, items, c => do
    let c := c.skip extended
    match c.char? with
    | none => unclosedClass stack c
    | some '[' =>
      let posix? := if stack.isEmpty then none else readPosix? c
      match posix? with
      | some (set, after) => readClassFor extended fuel stack (items.push set) after
      | none =>
        let (opening, negated, inner, after) ← readOpening extended c
        readClassFor extended fuel (.bracket items opening negated :: stack) inner after
    | some ']' =>
      match finishOperator stack items.charSet with
      | (body, .bracket before opening negated :: stack) =>
        let after := c.next
        let set := CharSet.bracket (after.spanFrom opening.start) negated body
        if stack.isEmpty then return (set, after)
        else readClassFor extended fuel stack (before.push set) after
      | (_, stack) => unclosedClass stack c
    | some char =>
      match operator? c with
      | some op =>
        let (lhs, stack) := finishOperator stack items.charSet
        let after := c.next.next
        readClassFor extended fuel (.operator op lhs :: stack) (.startingAt after.pos) after
      | none =>
        let (item, after) ← readRange extended stack c char
        readClassFor extended fuel stack (items.push item) after

/-- Reads a class, with the cursor on its opening bracket. -/
def readClass (extended : Bool) (c : Cursor) : Except Error (CharSet × Cursor) :=
  readClassFor extended (c.rest.length + 1) [] (.startingAt c.pos) c

end FilterQuery.Regex
