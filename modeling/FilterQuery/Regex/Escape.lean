import FilterQuery.Regex.Cursor
import FilterQuery.Regex.Node
import FilterQuery.Text.Hex

/-!
# Escapes

What a backslash and the characters after it mean in a regular expression.
-/

namespace FilterQuery.Regex

open Text

/-- What an escape or a single character of a pattern stands for. -/
inductive Atom where
  | literal (l : Literal)
  | letter (span : Span) (negated : Bool) (cls : LetterClass)
  | property (span : Span) (negated : Bool) (query : PropertyQuery)
  | assertion (span : Span) (kind : Assertion)
  deriving DecidableEq, Repr

namespace Atom

/-- The stretch of an atom. -/
def span : Atom → Span
  | literal l => l.span
  | letter s _ _ | property s _ _ | assertion s _ => s

/-- The atom as a pattern. -/
def node : Atom → Node
  | literal l => .literal l
  | letter s n c => .charSet (.letter s n c)
  | property s n q => .charSet (.property s n q)
  | assertion s k => .assertion s k

/-- The atom as a set of characters. -/
def charSet : Atom → Except Error CharSet
  | literal l => .ok (.literal l)
  | letter s n c => .ok (.letter s n c)
  | property s n q => .ok (.property s n q)
  | assertion s _ => fail .classEscape s

/-- The atom as the end of a range of characters. -/
def boundary : Atom → Except Error Literal
  | literal l => .ok l
  | a => fail .classRangeBoundary a.span

end Atom

/-! ## Hexadecimal literals -/

/-- The character with a code, if the code is a Unicode scalar value. -/
def scalar? (n : Nat) : Option Char := if n.isValidChar then some (Char.ofNat n) else none

/-- Reads a fixed number of hexadecimal digits. -/
def readHexDigits (extended : Bool) : Nat → Cursor → Except Error (List Char × Cursor)
  | 0, c => .ok ([], c)
  | n + 1, c =>
    match c.rest with
    | [] => fail .escapeUnfinished c.here
    | d :: _ =>
      if Hex.isDigit d then do
        let r ← readHexDigits extended n (c.step extended)
        return (d :: r.1, r.2)
      else fail .hexDigit c.charSpan

/-- Reads the digits of a literal such as `\x41` or `\x{41}`, with the cursor
on the character after the letter. -/
def readHex (extended : Bool) (start digits : Nat) (isByte : Bool) (c : Cursor) :
    Except Error (Atom × Cursor) :=
  if c.char? = some '{' then
    let (ds, close) := (c.step extended).takeWhile extended Hex.isDigit
    match close.char? with
    | none => fail .escapeUnfinished (close.spanFrom c.pos)
    | some '}' =>
      let after := close.step extended
      if ds.isEmpty then fail .hexEmpty (after.spanFrom c.pos)
      else
        match scalar? (Hex.number ds) with
        | some char => .ok (.literal ⟨after.spanFrom start, char, false⟩, after)
        | none => fail .hexNotScalar (close.spanFrom (c.pos + 1))
    | some _ => fail .hexDigit close.charSpan
  else do
    let (ds, after) ← readHexDigits extended digits c
    match scalar? (Hex.number ds) with
    | some char => return (.literal ⟨after.spanFrom start, char, isByte⟩, after)
    | none => fail .hexNotScalar (after.spanFrom c.pos)

/-! ## Unicode properties -/

/-- Splits a text at the first occurrence of a word. -/
def splitAtWord? (word : List Char) : List Char → Option (List Char × List Char)
  | [] => none
  | c :: rest =>
    if word.isPrefixOf (c :: rest) then some ([], (c :: rest).drop word.length)
    else (splitAtWord? word rest).map fun r => (c :: r.1, r.2)

/-- The question that the text between the braces of a property asks, and
whether `!=` negates it. -/
def propertyQuery (text : List Char) : Bool × PropertyQuery :=
  match splitAtWord? ['!', '='] text, splitAtWord? [':'] text, splitAtWord? ['='] text with
  | some (n, v), _, _ => (true, .valued n v)
  | none, some (n, v), _ => (false, .valued n v)
  | none, none, some (n, v) => (false, .valued n v)
  | none, none, none => (false, .named text)

/-- Reads the name of a property, with the cursor on the character after the
letter. -/
def readProperty (extended : Bool) (start : Nat) (negated : Bool) (c : Cursor) :
    Except Error (Atom × Cursor) :=
  match c.char? with
  | none => fail .escapeUnfinished c.here
  | some '{' =>
    let (name, close) := (c.step extended).takeWhile extended (· != '}')
    if close.atEnd then fail .escapeUnfinished close.here
    else
      let after := close.next
      let (flipped, query) := propertyQuery name
      .ok (.property (after.spanFrom start) (negated != flipped) query, after)
  | some '\\' => fail .propertyEscape c.charSpan
  | some letter =>
    let after := c.step extended
    .ok (.property (after.spanFrom start) negated (.named [letter]), after)

/-! ## Word boundaries -/

/-- The boundary that has a name. -/
def wordBoundary? (name : List Char) : Option Assertion :=
  match String.ofList name with
  | "start" => some .wordStart
  | "end" => some .wordEnd
  | "start-half" => some .wordStartHalf
  | "end-half" => some .wordEndHalf
  | _ => none

/-- Whether a character can stand in the name of a word boundary. -/
def isBoundaryChar (c : Char) : Bool := c.isAlpha || c == '-'

/-- Reads what may follow `\b` in braces: the name of a boundary, or nothing
if the braces hold a count.  The cursor is on the opening brace. -/
def readBoundaryName (extended : Bool) (start : Nat) (c : Cursor) :
    Except Error (Atom × Cursor) :=
  let body := c.step extended
  match body.char? with
  | none => fail .wordBoundaryOrCountUnfinished (body.spanFrom start)
  | some first =>
    if isBoundaryChar first then
      let (name, close) := body.takeWhile extended isBoundaryChar
      if close.char? = some '}' then
        match wordBoundary? name with
        | some kind => .ok (.assertion (close.next.spanFrom start) kind, close.next)
        | none => fail .wordBoundaryUnknown (close.spanFrom body.pos)
      else fail .wordBoundaryUnclosed (close.spanFrom c.pos)
    else .ok (.assertion (c.spanFrom start) .wordBoundary, c)

/-! ## All escapes -/

/-- Whether a backslash may stand before a character that has no meaning of
its own then: any ASCII character but letters, digits and angle brackets. -/
def isEscapable (c : Char) : Bool :=
  decide (c.toNat < 128) && !c.isAlphanum && c != '<' && c != '>'

/-- The characters that a letter after a backslash stands for. -/
def controlChar? : Char → Option Char
  | 'a' => some '\x07'
  | 'f' => some '\x0c'
  | 't' => some '\t'
  | 'n' => some '\n'
  | 'r' => some '\r'
  | 'v' => some '\x0b'
  | _ => none

/-- The class that a letter after a backslash names, and whether it is
negated. -/
def letterClass? : Char → Option (Bool × LetterClass)
  | 'd' => some (false, .digit)
  | 's' => some (false, .space)
  | 'w' => some (false, .word)
  | 'D' => some (true, .digit)
  | 'S' => some (true, .space)
  | 'W' => some (true, .word)
  | _ => none

/-- The condition that a character after a backslash stands for. -/
def assertion? : Char → Option Assertion
  | 'A' => some .textStart
  | 'z' => some .textEnd
  | 'B' => some .noWordBoundary
  | '<' => some .wordStart
  | '>' => some .wordEnd
  | _ => none

/-- Reads an escape, with the cursor on its backslash. -/
def readEscape (extended : Bool) (c : Cursor) : Except Error (Atom × Cursor) :=
  let start := c.pos
  let letter := c.next
  let after := letter.next
  let span := after.spanFrom start
  match letter.char? with
  | none => fail .escapeUnfinished (letter.spanFrom start)
  | some 'x' => readHex extended start 2 true (letter.step extended)
  | some 'u' => readHex extended start 4 false (letter.step extended)
  | some 'U' => readHex extended start 8 false (letter.step extended)
  | some 'p' => readProperty extended start false (letter.step extended)
  | some 'P' => readProperty extended start true (letter.step extended)
  | some 'b' =>
    if after.char? = some '{' then readBoundaryName extended start after
    else .ok (.assertion span .wordBoundary, after)
  | some d =>
    if d.isDigit then fail .backreference span
    else if isEscapable d then .ok (.literal ⟨span, d, false⟩, after)
    else
      match assertion? d, letterClass? d, controlChar? d with
      | some kind, _, _ => .ok (.assertion span kind, after)
      | none, some (negated, cls), _ => .ok (.letter span negated cls, after)
      | none, none, some char => .ok (.literal ⟨span, char, false⟩, after)
      | none, none, none => fail .escapeUnknown span

end FilterQuery.Regex
