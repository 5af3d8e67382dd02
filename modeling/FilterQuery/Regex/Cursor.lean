import FilterQuery.Regex.Fault
import FilterQuery.Text.Blank
import FilterQuery.Text.Scan

/-!
# A place in a pattern

The reader of regular expressions moves a cursor over the pattern.  In an
extended pattern the cursor passes over blanks and comments.
-/

namespace FilterQuery.Regex

open Text

/-- The rest of a pattern, and how many characters stand before it. -/
structure Cursor where
  rest : List Char
  pos : Nat
  deriving DecidableEq, Repr, Inhabited

namespace Cursor

/-- The beginning of a pattern. -/
def ofText (text : List Char) : Cursor := ⟨text, 0⟩

/-- Whether the pattern is at its end. -/
def atEnd (c : Cursor) : Bool := c.rest.isEmpty

/-- The character at the cursor. -/
def char? (c : Cursor) : Option Char := c.rest.head?

/-- The empty stretch at the cursor. -/
def here (c : Cursor) : Span := ⟨c.pos, c.pos⟩

/-- The stretch of the character at the cursor. -/
def charSpan (c : Cursor) : Span := ⟨c.pos, c.pos + 1⟩

/-- The stretch from an earlier place to the cursor. -/
def spanFrom (c : Cursor) (start : Nat) : Span := ⟨start, c.pos⟩

/-- Past one character. -/
def next (c : Cursor) : Cursor :=
  match c.rest with
  | [] => c
  | _ :: rest => ⟨rest, c.pos + 1⟩

/-- Past blanks and comments; a comment goes from `#` to the end of its
line. -/
def passBlanks (inComment : Bool) : List Char → Nat → Cursor
  | [], pos => ⟨[], pos⟩
  | c :: rest, pos =>
    if inComment then passBlanks (c != '\n') rest (pos + 1)
    else if isBlank c then passBlanks false rest (pos + 1)
    else if c = '#' then passBlanks true rest (pos + 1)
    else ⟨c :: rest, pos⟩

/-- Past what an extended pattern ignores. -/
def skip (extended : Bool) (c : Cursor) : Cursor :=
  if extended then passBlanks false c.rest c.pos else c

/-- Past one character and what an extended pattern ignores after it. -/
def step (extended : Bool) (c : Cursor) : Cursor := c.next.skip extended

/-- Past a word, if the pattern goes on with it. -/
def word? (word : List Char) (c : Cursor) : Option Cursor :=
  (dropWord? word c.rest).map fun rest => ⟨rest, c.pos + word.length⟩

/-- Takes characters as long as they fit, for at most `fuel` of them. -/
def takeWhileFor (extended : Bool) (fits : Char → Bool) : Nat → Cursor → List Char × Cursor
  | 0, c => ([], c)
  | fuel + 1, c =>
    match c.rest with
    | d :: _ =>
      if fits d then
        let r := takeWhileFor extended fits fuel (c.step extended)
        (d :: r.1, r.2)
      else ([], c)
    | [] => ([], c)

/-- Takes characters as long as they fit. -/
def takeWhile (extended : Bool) (fits : Char → Bool) (c : Cursor) : List Char × Cursor :=
  takeWhileFor extended fits c.rest.length c

/-- The character that a range would go on with after the one at the cursor.
An extended pattern looks past blanks and the mark of a comment, unless
nothing else follows. -/
def peek? (extended : Bool) (c : Cursor) : Option Char :=
  let after := c.next.rest
  if extended then
    let found :=
      match dropBlanks after with
      | '#' :: rest => dropBlanks rest
      | rest => rest
    if found.isEmpty then after.head? else found.head?
  else after.head?

end Cursor

end FilterQuery.Regex
