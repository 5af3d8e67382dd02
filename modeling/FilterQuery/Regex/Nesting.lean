import FilterQuery.Regex.Node

/-!
# Nesting

How deep the parts of a pattern may lie inside each other.  Groups,
repetitions, sequences, alternations and classes each count as one level.
-/

namespace FilterQuery.Regex

/-- How many levels a pattern may have. -/
def nestLimit : Nat := 250

/-- Refuses a part at a level below the limit. -/
def checkLevel (level : Nat) (span : Span) : Except Error Unit :=
  if nestLimit ≤ level then fail (.tooDeep nestLimit) span else .ok ()

mutual

/-- Checks a set of characters that lies at a level. -/
def CharSet.checkNesting (level : Nat) : CharSet → Except Error Unit
  | .bracket span _ body => do
    checkLevel level span
    body.checkNesting (level + 1)
  | .union span items => do
    checkLevel level span
    CharSet.checkNestingOf (level + 1) items
  | .combine span _ lhs rhs => do
    checkLevel level span
    lhs.checkNesting (level + 1)
    rhs.checkNesting (level + 1)
  | _ => .ok ()

/-- Checks several sets at the same level, from left to right. -/
def CharSet.checkNestingOf (level : Nat) : List CharSet → Except Error Unit
  | [] => .ok ()
  | item :: items => do
    item.checkNesting level
    CharSet.checkNestingOf level items

end

mutual

/-- Checks a pattern that lies at a level. -/
def Node.checkNesting (level : Nat) : Node → Except Error Unit
  | .charSet set => set.checkNesting level
  | .repetition span _ body => do
    checkLevel level span
    body.checkNesting (level + 1)
  | .group span _ _ body => do
    checkLevel level span
    body.checkNesting (level + 1)
  | .alternation span branches => do
    checkLevel level span
    Node.checkNestingOf (level + 1) branches
  | .sequence span items => do
    checkLevel level span
    Node.checkNestingOf (level + 1) items
  | _ => .ok ()

/-- Checks several patterns at the same level, from left to right. -/
def Node.checkNestingOf (level : Nat) : List Node → Except Error Unit
  | [] => .ok ()
  | item :: items => do
    item.checkNesting level
    Node.checkNestingOf level items

end

end FilterQuery.Regex
