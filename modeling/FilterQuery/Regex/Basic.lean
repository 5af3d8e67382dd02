import FilterQuery.Regex.Meaning
import FilterQuery.Regex.Nesting
import FilterQuery.Regex.Reader
import FilterQuery.Regex.Report
import FilterQuery.Regex.Size

/-!
# Regular expressions

`Regex` is a pattern that compiles.  `Regex.compile` accepts such a pattern
and says of any other why it is none.  Matching with the pattern is the work
of whoever evaluates the query.
-/

namespace FilterQuery

/-- Why a pattern does not compile. -/
inductive Regex.Rejection where
  | faulty (error : Regex.Error)
  | tooLarge
  deriving DecidableEq, Repr

/-- The reason in words. -/
def Regex.Rejection.reason (pattern : String) : Regex.Rejection → String
  | .faulty error => String.ofList (error.report pattern.toList)
  | .tooLarge =>
    "Compiled regex exceeds size limit of " ++ Text.Numeral.text Regex.sizeLimit ++ " bytes."

/-- Checks the tree of a pattern: its structure first, then its depth, its
properties and its size. -/
def Regex.check (pattern : List Char) : Except Regex.Rejection Unit :=
  let term : Except Regex.Error Regex.Term := do
    let node ← Regex.Node.ofText pattern
    node.checkNesting 0
    node.term
  match term with
  | .error e => .error (.faulty e)
  | .ok term => if term.fits then .ok () else .error .tooLarge

/-- A pattern that compiles.  Two of them are equal if their sources are. -/
structure Regex where
  source : String
  compiles : Regex.check source.toList = .ok ()
  deriving DecidableEq

/-- The regular expression of a pattern, or why it does not compile. -/
def Regex.compile (source : String) : Except Regex.Rejection Regex :=
  match h : Regex.check source.toList with
  | .ok () => .ok ⟨source, h⟩
  | .error e => .error e

end FilterQuery
