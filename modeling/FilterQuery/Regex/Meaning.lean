import FilterQuery.Regex.Property
import FilterQuery.Regex.Term
import FilterQuery.Unicode.CaseFolding

/-!
# The meaning of patterns

`Node.term` applies the flags of a pattern and answers its questions about
properties.  With the Unicode flag, which is set at first, every property must
exist.  Without it, a pattern must still match nothing but text: it may not
name properties, nor match bytes outside of ASCII.
-/

namespace FilterQuery.Regex

open Unicode

/-! ## Flags -/

/-- The flags that hold at a place of a pattern. -/
structure Flags where
  ignoreCase : Bool := false
  multiLine : Bool := false
  dotMatchesNewline : Bool := false
  swapGreed : Bool := false
  unicode : Bool := true
  carriageReturn : Bool := false
  deriving DecidableEq, Repr, Inhabited

/-- The flags after some changes. -/
def Flags.apply (f : Flags) (changes : List FlagChange) : Flags where
  ignoreCase := (FlagChange.value? changes .ignoreCase).getD f.ignoreCase
  multiLine := (FlagChange.value? changes .multiLine).getD f.multiLine
  dotMatchesNewline := (FlagChange.value? changes .dotMatchesNewline).getD f.dotMatchesNewline
  swapGreed := (FlagChange.value? changes .swapGreed).getD f.swapGreed
  unicode := (FlagChange.value? changes .unicode).getD f.unicode
  carriageReturn := (FlagChange.value? changes .carriageReturn).getD f.carriageReturn

/-- A set with the other cases of its characters, if case is ignored. -/
def Flags.fold (f : Flags) (codes : CodeSet) : CodeSet :=
  if f.ignoreCase then (if f.unicode then codes.foldCase else codes.foldAsciiCase) else codes

/-- The characters that a dot stands for. -/
def Flags.dot (f : Flags) : CodeSet :=
  if f.dotMatchesNewline then .full
  else if f.carriageReturn then .ofText "0-9 B-C E-10FFFF"
  else .ofText "0-9 B-10FFFF"

/-- A condition under the flags. -/
def Flags.look (f : Flags) : Assertion → Look
  | .lineStart => if f.multiLine then ⟨.lineStart, f.carriageReturn⟩ else ⟨.textStart, false⟩
  | .lineEnd => if f.multiLine then ⟨.lineEnd, f.carriageReturn⟩ else ⟨.textEnd, false⟩
  | .textStart => ⟨.textStart, false⟩
  | .textEnd => ⟨.textEnd, false⟩
  | kind => ⟨kind, f.unicode⟩

/-! ## Sets -/

/-- The characters of a class that a letter names. -/
def LetterClass.codes (unicode : Bool) : LetterClass → CodeSet
  | .digit => if unicode then Category.decimalNumber else .ofText "30-39"
  | .space => if unicode then Binary.whiteSpace else .ofText "9-D 20"
  | .word =>
    if unicode then
      .unions
        [Binary.alphabetic, Category.mark, Category.decimalNumber,
          Category.connectorPunctuation, Binary.joinControl]
    else .ofText "30-39 41-5A 5F 61-7A"

/-- Two sets combined. -/
def SetOperator.apply : SetOperator → CodeSet → CodeSet → CodeSet
  | .intersection, a, b => a ∩ b
  | .difference, a, b => a \ b
  | .symmetricDifference, a, b => a.symmDiff b

/-- Whether a literal is an ASCII character. -/
def Literal.isAscii (l : Literal) : Bool := decide (l.char.toNat < 128)

/-- Checks a literal outside of a class. -/
def Literal.check (unicode : Bool) (l : Literal) : Except Error Unit :=
  if !unicode && l.isByte && !l.isAscii then fail .notText l.span else .ok ()

/-- The code of a literal of a class. -/
def Literal.code (unicode : Bool) (l : Literal) : Except Error Nat := do
  l.check unicode
  if !unicode && !l.isAscii then fail .needsUnicode l.span else return l.char.toNat

/-- A set or what it leaves over.  Without the Unicode flag no set is negated:
the bytes left over would not be text. -/
def Flags.negate (f : Flags) (span : Span) (negated : Bool) (codes : CodeSet) :
    Except Error CodeSet :=
  if negated then (if f.unicode then .ok codes.compl else fail .notText span) else .ok codes

mutual

/-- The characters of a set. -/
def CharSet.codes (f : Flags) : CharSet → Except Error CodeSet
  | .empty _ => .ok .empty
  | .literal l => do return .ofCodes [← l.code f.unicode]
  | .range _ first last => do return ⟨[⟨← first.code f.unicode, ← last.code f.unicode⟩]⟩
  | .posix span negated codes => f.negate span negated (f.fold codes)
  | .letter span negated cls => f.negate span negated (cls.codes f.unicode)
  | .property span negated query =>
    if f.unicode then
      match Property.codes query with
      | .ok codes => f.negate span negated (f.fold codes)
      | .error fault => fail fault span
    else fail .needsUnicode span
  | .bracket span negated body => do f.negate span negated (f.fold (← body.codes f))
  | .union _ items => CharSet.codesOf f items
  | .combine _ op lhs rhs => do
    let a ← lhs.codes f
    let b ← rhs.codes f
    return op.apply (f.fold a) (f.fold b)

/-- The characters of several sets. -/
def CharSet.codesOf (f : Flags) : List CharSet → Except Error CodeSet
  | [] => .ok .empty
  | item :: items => do return (← item.codes f) ∪ (← CharSet.codesOf f items)

end

/-! ## Patterns -/

mutual

/-- The term of a pattern, and the flags as they stand after it.  Flags hold
up to the end of their group. -/
def Node.termWith (f : Flags) : Node → Except Error (Term × Flags)
  | .empty _ => .ok (.empty, f)
  | .flags _ changes => .ok (.empty, f.apply changes)
  | .literal l => do
    l.check f.unicode
    return (.ofSet f.unicode (f.fold (.ofCodes [l.char.toNat])), f)
  | .anyChar span => if f.unicode then .ok (.ofSet true f.dot, f) else fail .notText span
  | .assertion _ kind => .ok (.look (f.look kind), f)
  | .charSet set => do return (.ofSet f.unicode (← set.codes f), f)
  | .repetition _ repeats body => do
    let (term, f) ← body.termWith f
    return (.ofRepeats { repeats with greedy := repeats.greedy != f.swapGreed } term, f)
  | .group span changes captures body => do
    let (term, _) ← body.termWith (f.apply changes)
    return (if captures then .capture span.start term else term, f)
  | .alternation _ branches => do
    let (terms, f) ← Node.termsWith f branches
    return (.ofBranches terms, f)
  | .sequence _ items => do
    let (terms, f) ← Node.termsWith f items
    return (.ofItems terms, f)

/-- The terms of patterns one after the other. -/
def Node.termsWith (f : Flags) : List Node → Except Error (List Term × Flags)
  | [] => .ok ([], f)
  | item :: items => do
    let (term, f) ← item.termWith f
    let (terms, f) ← Node.termsWith f items
    return (term :: terms, f)

end

/-- The term of a whole pattern. -/
def Node.term (n : Node) : Except Error Term := do return (← n.termWith {}).1

end FilterQuery.Regex
