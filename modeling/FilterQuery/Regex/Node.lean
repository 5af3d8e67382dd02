import FilterQuery.Regex.Fault
import FilterQuery.Unicode.CodeSet

/-!
# The structure of regular expressions

A pattern as a tree.  The tree keeps the stretch of the pattern that each of
its parts takes up, so that a later check can point to it.
-/

namespace FilterQuery.Regex

open Unicode

/-- A character that matches itself. -/
structure Literal where
  span : Span
  char : Char
  /-- Whether it was written as a byte, with two hexadecimal digits. -/
  isByte : Bool
  deriving DecidableEq, Repr, Inhabited

/-- The classes that a backslash and a letter name. -/
inductive LetterClass where
  | digit | space | word
  deriving DecidableEq, Repr, Inhabited

/-- A question about a Unicode property. -/
inductive PropertyQuery where
  /-- A property, a general category or a script by its name. -/
  | named (name : List Char)
  /-- A property with one of its values. -/
  | valued (name value : List Char)
  deriving DecidableEq, Repr, Inhabited

/-- How two sets of characters are combined. -/
inductive SetOperator where
  | intersection | difference | symmetricDifference
  deriving DecidableEq, Repr, Inhabited

/-- A set of characters. -/
inductive CharSet where
  | empty (span : Span)
  | literal (l : Literal)
  | range (span : Span) (first last : Literal)
  /-- A class by its name between colons, such as `[:alpha:]`. -/
  | posix (span : Span) (negated : Bool) (codes : CodeSet)
  | letter (span : Span) (negated : Bool) (cls : LetterClass)
  | property (span : Span) (negated : Bool) (query : PropertyQuery)
  | bracket (span : Span) (negated : Bool) (body : CharSet)
  | union (span : Span) (items : List CharSet)
  | combine (span : Span) (op : SetOperator) (lhs rhs : CharSet)
  deriving Repr, Inhabited

/-- The stretch of a set. -/
def CharSet.span : CharSet → Span
  | empty s | range s _ _ | posix s _ _ | letter s _ _ | property s _ _ | bracket s _ _
  | union s _ | combine s _ _ _ => s
  | literal l => l.span

/-- The flags that change the meaning of a pattern. -/
inductive Flag where
  | ignoreCase | multiLine | dotMatchesNewline | swapGreed | unicode | carriageReturn
  | ignoreBlanks
  deriving DecidableEq, Repr, Inhabited

/-- A flag with whether it is set or cleared. -/
structure FlagChange where
  flag : Flag
  value : Bool
  deriving DecidableEq, Repr, Inhabited

/-- The value that a list of changes gives a flag, if it mentions it. -/
def FlagChange.value? (changes : List FlagChange) (flag : Flag) : Option Bool :=
  (changes.find? (·.flag == flag)).map (·.value)

/-- A condition on a place in a text. -/
inductive Assertion where
  | lineStart | lineEnd | textStart | textEnd
  | wordBoundary | noWordBoundary | wordStart | wordEnd | wordStartHalf | wordEndHalf
  deriving DecidableEq, Repr, Inhabited

/-- How often an item repeats, and whether as often as possible. -/
structure Repeats where
  least : Nat
  most? : Option Nat
  greedy : Bool := true
  deriving DecidableEq, Repr, Inhabited

/-- A pattern. -/
inductive Node where
  | empty (span : Span)
  /-- Flags that hold up to the end of the group. -/
  | flags (span : Span) (changes : List FlagChange)
  | literal (l : Literal)
  | anyChar (span : Span)
  | assertion (span : Span) (kind : Assertion)
  | charSet (set : CharSet)
  | repetition (span : Span) (repeats : Repeats) (body : Node)
  /-- A group, with the flags that hold in it, and whether what it matches can
  be asked for. -/
  | group (span : Span) (changes : List FlagChange) (captures : Bool) (body : Node)
  | alternation (span : Span) (branches : List Node)
  | sequence (span : Span) (items : List Node)
  deriving Repr, Inhabited

/-- The stretch of a pattern. -/
def Node.span : Node → Span
  | empty s | flags s _ | anyChar s | assertion s _ | repetition s _ _ | group s _ _ _
  | alternation s _ | sequence s _ => s
  | literal l => l.span
  | charSet c => c.span

/-- The pattern of items one after the other; a single item is a pattern by
itself. -/
def Node.ofItems (span : Span) : List Node → Node
  | [] => .empty span
  | [item] => item
  | items => .sequence span items

end FilterQuery.Regex
