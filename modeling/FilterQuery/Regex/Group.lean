import FilterQuery.Regex.Cursor
import FilterQuery.Regex.Node
import FilterQuery.Text.Letter

/-!
# Groups and flags

What may follow an opening parenthesis: the name of the group, flags for the
group, or flags for the rest of the group around it.
-/

namespace FilterQuery.Regex

open Text

/-- The names of groups with their places, the latest first. -/
abbrev GroupNames := List (List Char × Span)

/-- What an opening parenthesis begins. -/
inductive Opening where
  /-- Flags for the rest of the group around. -/
  | flags (span : Span) (changes : List FlagChange)
  /-- A group, with the flags that hold in it, and whether it captures. -/
  | group (span : Span) (changes : List FlagChange) (captures : Bool)
  deriving DecidableEq, Repr

/-! ## Names -/

/-- Whether a character may stand in the name of a group. -/
def isNameChar (first : Bool) (c : Char) : Bool :=
  c == '_' || isLetter c || (!first && (c == '.' || c == '[' || c == ']' || isNumeral c))

/-- Passes over the characters of a name. -/
def passName (first : Bool) : List Char → Nat → Except Error Cursor
  | [], pos => .ok ⟨[], pos⟩
  | c :: rest, pos =>
    if c = '>' then .ok ⟨c :: rest, pos⟩
    else if isNameChar first c then passName false rest (pos + 1)
    else fail .nameCharacter ⟨pos, pos + 1⟩

/-- Reads the name of a group and the bracket after it. -/
def readName (names : GroupNames) (c : Cursor) : Except Error (GroupNames × Cursor) := do
  let close ← passName true c.rest c.pos
  if close.atEnd then fail .nameUnclosed close.here else
  let name := c.rest.take (close.pos - c.pos)
  let span := close.spanFrom c.pos
  if name.isEmpty then fail .nameEmpty c.here else
  match names.lookup name with
  | some earlier => .error { fault := .nameDuplicate, span, earlier? := some earlier }
  | none => return ((name, span) :: names, close.next)

/-! ## Flags -/

/-- The flag that a letter stands for. -/
def flag? : Char → Option Flag
  | 'i' => some .ignoreCase
  | 'm' => some .multiLine
  | 's' => some .dotMatchesNewline
  | 'U' => some .swapGreed
  | 'u' => some .unicode
  | 'R' => some .carriageReturn
  | 'x' => some .ignoreBlanks
  | _ => none

/-- The flags read so far, with the places of their letters. -/
structure FlagsRead where
  changes : List (FlagChange × Span) := []
  /-- The place of the hyphen after which flags are cleared. -/
  negation? : Option Span := none
  deriving Inhabited

/-- Whether anything has been read. -/
def FlagsRead.isEmpty (r : FlagsRead) : Bool := r.changes.isEmpty && r.negation?.isNone

/-- Reads flags up to a colon or a closing parenthesis.  `dangling` says
whether a hyphen was read last. -/
def readFlags (r : FlagsRead) (dangling : Bool) :
    List Char → Nat → Except Error (FlagsRead × Cursor)
  | [], pos => fail .flagUnfinished ⟨pos, pos⟩
  | c :: rest, pos =>
    let span : Span := ⟨pos, pos + 1⟩
    if c = ':' || c = ')' then
      match dangling, r.negation? with
      | true, some negation => fail .negationDangling negation
      | _, _ => .ok (r, ⟨c :: rest, pos⟩)
    else if c = '-' then
      match r.negation? with
      | some earlier => .error { fault := .negationRepeated, span, earlier? := some earlier }
      | none => readFlags { r with negation? := some span } true rest (pos + 1)
    else
      match flag? c with
      | none => fail .flagUnknown span
      | some flag =>
        match r.changes.find? (·.1.flag == flag) with
        | some earlier =>
          .error { fault := .flagDuplicate, span, earlier? := some earlier.2 }
        | none =>
          let change : FlagChange := ⟨flag, r.negation?.isNone⟩
          readFlags { r with changes := r.changes ++ [(change, span)] } false rest (pos + 1)

/-! ## Openings -/

/-- The openings of look-around, which patterns do not have. -/
def lookArounds : List (List Char) := [['?', '='], ['?', '!'], ['?', '<', '='], ['?', '<', '!']]

/-- The openings of a group with a name. -/
def namedOpenings : List (List Char) := [['?', 'P', '<'], ['?', '<']]

/-- Reads what follows an opening parenthesis, with the cursor on it. -/
def readOpeningParen (extended : Bool) (names : GroupNames) (c : Cursor) :
    Except Error (Opening × GroupNames × Cursor) := do
  let inner := c.step extended
  match lookArounds.findSome? fun w => inner.word? w with
  | some after => fail .lookAround (after.spanFrom c.pos)
  | none =>
    match namedOpenings.findSome? fun w => inner.word? w with
    | some name =>
      let (names, after) ← readName names name
      return (.group c.charSpan [] true, names, after)
    | none =>
      match inner.word? ['?'] with
      | none => return (.group c.charSpan [] true, names, inner)
      | some start =>
        if start.atEnd then fail .groupUnclosed c.charSpan else
        let (flags, close) ← readFlags {} false start.rest start.pos
        let changes := flags.changes.map (·.1)
        let after := close.next
        if close.char? == some ')' then
          if flags.isEmpty then fail .repetitionMissing inner.here
          else return (.flags (after.spanFrom c.pos) changes, names, after)
        else return (.group c.charSpan changes false, names, after)

end FilterQuery.Regex
