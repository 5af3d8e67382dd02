import FilterQuery.Regex.Node
import FilterQuery.Text.Utf8

/-!
# Terms

What a pattern means once its flags are applied: a `Term` has no flags, no
places and no ways to write a set.  Terms are built by the functions below,
which keep them simple: a sequence holds neither sequences nor empty terms nor
two literals side by side, an alternation holds no alternations, a set with
one character is a literal, and what all branches of an alternation begin with
stands before it.
-/

namespace FilterQuery.Regex

open Unicode Text

/-- A condition on a place, and the flag on which it depends: whether a
carriage return ends a line, or whether words are those of Unicode. -/
structure Look where
  kind : Assertion
  flag : Bool := false
  deriving DecidableEq, Repr, Inhabited

/-- The meaning of a pattern. -/
inductive Term where
  | empty
  | literal (chars : List Char)
  /-- A set of characters, or of bytes if it is not one of Unicode. -/
  | set (unicode : Bool) (codes : CodeSet)
  | look (l : Look)
  | repetition (repeats : Repeats) (body : Term)
  /-- A group that captures, by the place where it begins. -/
  | capture (start : Nat) (body : Term)
  | sequence (items : List Term)
  | alternation (branches : List Term)
  deriving Repr, Inhabited

namespace Term

/-! ## Equality -/

mutual

/-- Whether two terms are the same. -/
def isSame : Term → Term → Bool
  | .empty, .empty => true
  | .literal a, .literal b => a == b
  | .set u a, .set v b => u == v && a == b
  | .look a, .look b => a == b
  | .repetition r a, .repetition s b => r == s && isSame a b
  | .capture m a, .capture n b => m == n && isSame a b
  | .sequence as, .sequence bs => areSame as bs
  | .alternation as, .alternation bs => areSame as bs
  | _, _ => false

/-- Whether two lists of terms are the same. -/
def areSame : List Term → List Term → Bool
  | [], [] => true
  | a :: as, b :: bs => isSame a b && areSame as bs
  | _, _ => false

end

/-! ## Lengths -/

/-- The least and the greatest number of bytes that a term matches, as far as
they are known. -/
structure Lengths where
  least? : Option Nat
  most? : Option Nat
  deriving DecidableEq, Repr, Inhabited

/-- The lengths of an empty match. -/
def Lengths.zero : Lengths := ⟨some 0, some 0⟩

/-- The lengths of a match with a known number of bytes. -/
def Lengths.exactly (n : Nat) : Lengths := ⟨some n, some n⟩

/-- The lengths if nothing is known of them. -/
def Lengths.unknown : Lengths := ⟨none, none⟩

/-- Combines lengths, which are known if both are. -/
def Lengths.combine (least most : Nat → Nat → Nat) (a b : Lengths) : Lengths where
  least? := a.least?.bind fun m => b.least?.map (least m)
  most? := a.most?.bind fun m => b.most?.map (most m)

/-- The lengths of the characters of a set. -/
def setLengths (codes : CodeSet) : Lengths where
  least? := codes.ranges.head?.map fun r => Utf8.size r.first
  most? := codes.ranges.getLast?.map fun r => Utf8.size r.last

/-- The number of bytes of a literal. -/
def literalBytes (chars : List Char) : Nat :=
  chars.foldl (fun n c => n + Utf8.size c.toNat) 0

mutual

/-- The lengths of the matches of a term. -/
def lengths : Term → Lengths
  | .empty | .look _ => .zero
  | .literal chars => .exactly (literalBytes chars)
  | .set _ codes => setLengths codes
  | .repetition r body =>
    let inner := body.lengths
    { least? := inner.least?.map (r.least * ·)
      most? := r.most?.bind fun m => inner.most?.map (m * ·) }
  | .capture _ body => body.lengths
  | .sequence items => sumOfLengths items
  | .alternation branches => hullOfLengths branches

/-- The lengths of terms one after the other. -/
def sumOfLengths : List Term → Lengths
  | [] => .zero
  | item :: items => item.lengths.combine (· + ·) (· + ·) (sumOfLengths items)

/-- The lengths of one of several terms. -/
def hullOfLengths : List Term → Lengths
  | [] => .unknown
  | [branch] => branch.lengths
  | branch :: branches => branch.lengths.combine min max (hullOfLengths branches)

end

/-- Whether a term matches the empty text at most. -/
def isEmptyWidth (t : Term) : Bool := t.lengths.most? == some 0

/-- Whether a term never matches the empty text. -/
def isNonempty (t : Term) : Bool := t.lengths.least?.any (0 < ·)

/-! ## Building terms -/

/-- The term that matches nothing at all. -/
def never : Term := .set false .empty

/-- The term for a set. -/
def ofSet (unicode : Bool) (codes : CodeSet) : Term :=
  if codes.isEmpty then never
  else
    match codes.single? with
    | some n => .literal [Char.ofNat n]
    | none => .set unicode codes

/-- A term repeated.  What matches only the empty text repeats once at most. -/
def ofRepeats (repeats : Repeats) (body : Term) : Term :=
  let repeats :=
    if body.isEmptyWidth then
      { repeats with least := min repeats.least 1, most? := some (min (repeats.most?.getD 1) 1) }
    else repeats
  if repeats.most? == some 0 then .empty
  else if repeats.least == 1 && repeats.most? == some 1 then body
  else .repetition repeats body

/-- Puts a term before others, and joins two literals. -/
def joinLiteral (item : Term) (items : List Term) : List Term :=
  match item, items with
  | .literal a, .literal b :: rest => .literal (a ++ b) :: rest
  | item, items => item :: items

/-- The parts of a term in a sequence. -/
def parts : Term → List Term
  | .empty => []
  | .sequence items => items
  | t => [t]

/-- The term of several terms one after the other. -/
def ofItems (items : List Term) : Term :=
  match (items.flatMap parts).foldr joinLiteral [] with
  | [] => .empty
  | [item] => item
  | items => .sequence items

/-- The branches of a term in an alternation. -/
def branches : Term → List Term
  | .alternation bs => bs
  | t => [t]

/-- The set of several characters, if all terms are such. -/
def charsOf? (terms : List Term) : Option CodeSet :=
  let codes? := terms.mapM fun
    | .literal [c] => some c.toNat
    | _ => none
  codes?.map .ofCodes

/-- The union of several sets, if all terms are such. -/
def setsOf? (terms : List Term) : Option CodeSet :=
  let sets? := terms.mapM fun
    | .set _ codes => some codes
    | _ => none
  sets?.map .unions

/-- The items of a sequence. -/
def items? : Term → Option (List Term)
  | .sequence items => some items
  | _ => none

/-- How many terms two lists have in common at the front. -/
def commonCount : List Term → List Term → Nat
  | a :: as, b :: bs => if isSame a b then commonCount as bs + 1 else 0
  | _, _ => 0

/-- What several sequences have in common at the front, if it is anything,
and what is left of each. -/
def commonFront? (terms : List Term) : Option (List Term × List (List Term)) :=
  match terms.mapM items? with
  | some (first :: rest) =>
    let count := rest.foldl (fun n items => min n (commonCount first items)) first.length
    if count = 0 then none
    else some (first.take count, (first :: rest).map (·.drop count))
  | _ => none

mutual

/-- The number of terms in a term. -/
def weight : Term → Nat
  | .repetition _ body | .capture _ body => body.weight + 1
  | .sequence items | .alternation items => weightOf items + 1
  | _ => 1

/-- The number of terms in several terms. -/
def weightOf : List Term → Nat
  | [] => 0
  | item :: items => item.weight + weightOf items

end

/-- The term of one of several terms.  Every round takes away a term that the
branches begin with, so `fuel` need not exceed their weight. -/
def ofBranchesFor : Nat → List Term → Term
  | 0, terms => .alternation terms
  | fuel + 1, terms =>
    match terms.flatMap branches with
    | [] => never
    | [term] => term
    | terms =>
      match charsOf? terms <|> setsOf? terms, commonFront? terms with
      | some codes, _ => ofSet true codes
      | none, some (front, rests) =>
        ofItems (front ++ [ofBranchesFor fuel (rests.map ofItems)])
      | none, none => .alternation terms

/-- The term of one of several terms. -/
def ofBranches (terms : List Term) : Term := ofBranchesFor (weightOf terms + 1) terms

end Term

end FilterQuery.Regex
