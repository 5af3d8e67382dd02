import FilterQuery.Regex.Fault
import FilterQuery.Text.Numeral

/-!
# Reports on regular expressions

The report on a faulty pattern shows the pattern with carets under the
stretches at fault.  A pattern of several lines is shown between two rules,
with numbers before its lines.
-/

namespace FilterQuery.Regex

open Text

/-! ## Lines and columns -/

/-- A line and a column of a pattern, both counted from one. -/
structure Place where
  line : Nat
  column : Nat
  deriving DecidableEq, Repr

/-- The place after a text. -/
def Place.after (text : List Char) : Place :=
  text.foldl (fun p c => if c = '\n' then ⟨p.line + 1, 1⟩ else ⟨p.line, p.column + 1⟩) ⟨1, 1⟩

/-- A stretch by its places. -/
structure Region where
  first : Place
  last : Place
  deriving DecidableEq, Repr

/-- The region of a stretch. -/
def Region.ofSpan (pattern : List Char) (s : Span) : Region :=
  ⟨.after (pattern.take s.start), .after (pattern.take s.stop)⟩

/-- Whether a region lies in one line. -/
def Region.isOneLine (r : Region) : Bool := r.first.line == r.last.line

/-- The lines of a text.  A carriage return before the end of a line is
dropped, and there is no empty line after the last one. -/
def splitLines (current : List Char) : List Char → List (List Char)
  | [] => if current.isEmpty then [] else [current.reverse]
  | c :: rest =>
    if c = '\n' then
      let line :=
        match current with
        | '\r' :: line => line
        | line => line
      line.reverse :: splitLines [] rest
    else splitLines (c :: current) rest

/-! ## Carets -/

/-- Carets under the regions of a line, in their order.  A region of no width
gets one caret. -/
def carets (regions : List Region) : List Char :=
  regions.foldl
    (fun drawn r =>
      drawn ++ List.replicate (r.first.column - 1 - drawn.length) ' ' ++
        List.replicate (max 1 (r.last.column - r.first.column)) '^')
    []

/-- A line of a pattern and, if it has regions, the carets under it. -/
def showLine (label indent : List Char) (line : List Char) (regions : List Region) : List Char :=
  label ++ line ++ '\n' ::
    if regions.isEmpty then [] else indent ++ carets regions ++ ['\n']

/-- The lines of a pattern with their carets, from line number `n` on. -/
def showLines (width : Nat) (regions : List Region) (n : Nat) : List (List Char) → List Char
  | [] => []
  | line :: lines =>
    let label := Numeral.padLeft ' ' width (Numeral.digits n) ++ [':', ' ']
    showLine label (List.replicate (width + 2) ' ') line
        (regions.filter fun r => r.isOneLine && r.first.line == n) ++
      showLines width regions (n + 1) lines

/-- The words for a region of several lines. -/
def regionNote (r : Region) : List Char :=
  "on line ".toList ++ Numeral.digits r.first.line ++ " (column ".toList ++
    Numeral.digits r.first.column ++ ") through line ".toList ++ Numeral.digits r.last.line ++
    " (column ".toList ++ Numeral.digits (r.last.column - 1) ++ ")\n".toList

/-! ## Reports -/

/-- The stretches of an error in the order of the pattern. -/
def Error.spans (e : Error) : List Span :=
  match e.earlier? with
  | none => [e.span]
  | some other => if e.span.start < other.start then [e.span, other] else [other, e.span]

/-- The report on an error in a pattern. -/
def Error.report (pattern : List Char) (e : Error) : List Char :=
  let regions := e.spans.map (Region.ofSpan pattern)
  let shown :=
    if pattern.contains '\n' then
      let lines := splitLines [] pattern
      let count := lines.length + if pattern.getLast? == some '\n' then 1 else 0
      let rule := List.replicate 79 '~' ++ ['\n']
      rule ++ showLines (Numeral.digits count).length regions 1 lines ++ rule ++
        (regions.filter fun r => !r.isOneLine).flatMap regionNote
    else showLine (List.replicate 4 ' ') (List.replicate 4 ' ') pattern regions
  "regex parse error:\n".toList ++ shown ++ "error: ".toList ++ e.fault.message.toList

end FilterQuery.Regex
