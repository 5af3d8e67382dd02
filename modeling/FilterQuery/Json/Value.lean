import FilterQuery.Json.Text
import FilterQuery.Text.Scan

/-!
# JSON values

Reading numbers and passing over values of any kind in a JSON text.
-/

namespace FilterQuery.Json

open Text

/-- Whether a character may stand between the tokens of a JSON text. -/
def isSpace (c : Char) : Bool := c == ' ' || c == '\t' || c == '\n' || c == '\r'

/-- Past the blanks between two tokens. -/
def skipSpace (text : List Char) : List Char := text.dropWhile isSpace

/-! ## Numbers -/

/-- The parts of a number. -/
structure Numeral where
  negative : Bool
  /-- The digits before the decimal point. -/
  whole : List Char
  /-- The digits after the decimal point, if there is one. -/
  fraction? : Option (List Char)
  exponent? : Option Int
  deriving DecidableEq, Repr

/-- Reads the digits before the decimal point.  A zero stands alone. -/
def readWhole? (text : List Char) : Option (List Char × List Char) :=
  (takeDigits? text.length text).filter fun r => r.1.head? != some '0' || r.1.length == 1

/-- Reads the decimal point and the digits after it, if there is one. -/
def readFraction? (text : List Char) : Option (Option (List Char) × List Char) :=
  match text with
  | '.' :: rest => (takeDigits? rest.length rest).map fun r => (some r.1, r.2)
  | _ => some (none, text)

/-- Reads an exponent, if there is one. -/
def readExponent? (text : List Char) : Option (Option Int × List Char) :=
  match text with
  | c :: rest =>
    if c = 'e' || c = 'E' then
      let (negative, body) :=
        match rest with
        | '-' :: body => (true, body)
        | '+' :: body => (false, body)
        | body => (false, body)
      (takeDigits? body.length body).map fun r =>
        let n : Int := Text.Numeral.value r.1
        (some (if negative then -n else n), r.2)
    else some (none, text)
  | [] => some (none, text)

/-- Reads a number. -/
def readNumeral? (text : List Char) : Option (Numeral × List Char) :=
  let (negative, body) :=
    match text with
    | '-' :: body => (true, body)
    | body => (false, body)
  (readWhole? body).bind fun whole =>
    (readFraction? whole.2).bind fun fraction =>
      (readExponent? fraction.2).map fun exponent =>
        (⟨negative, whole.1, fraction.1, exponent.1⟩, exponent.2)

/-! ## Values of any kind -/

/-- Passes over a value without parts: a string, a number or a word. -/
def passScalar? (text : List Char) : Option (List Char) :=
  match text with
  | '"' :: rest => passString? .plain rest
  | 'n' :: rest => dropWord? ['u', 'l', 'l'] rest
  | 't' :: rest => dropWord? ['r', 'u', 'e'] rest
  | 'f' :: rest => dropWord? ['a', 'l', 's', 'e'] rest
  | text => (readNumeral? text).map (·.2)

mutual

/-- Passes over a value and the blanks before it.  Of two calls in a row at
least one takes a character, so `fuel` need not exceed twice their number. -/
def passValueFor? : Nat → List Char → Option (List Char)
  | 0, _ => none
  | fuel + 1, text =>
    match skipSpace text with
    | '[' :: rest =>
      match skipSpace rest with
      | ']' :: rest => some rest
      | rest => passElementsFor? fuel rest
    | '{' :: rest =>
      match skipSpace rest with
      | '}' :: rest => some rest
      | rest => passMembersFor? fuel rest
    | rest => passScalar? rest

/-- Passes over the elements of an array and its closing bracket. -/
def passElementsFor? : Nat → List Char → Option (List Char)
  | 0, _ => none
  | fuel + 1, text =>
    match passValueFor? fuel text with
    | none => none
    | some rest =>
      match skipSpace rest with
      | ']' :: rest => some rest
      | ',' :: rest => passElementsFor? fuel rest
      | _ => none

/-- Passes over the members of an object and its closing brace. -/
def passMembersFor? : Nat → List Char → Option (List Char)
  | 0, _ => none
  | fuel + 1, text =>
    match skipSpace text with
    | '"' :: rest =>
      match (passString? .plain rest).map skipSpace with
      | some (':' :: rest) =>
        match (passValueFor? fuel rest).map skipSpace with
        | some ('}' :: rest) => some rest
        | some (',' :: rest) => passMembersFor? fuel rest
        | _ => none
      | _ => none
    | _ => none

end

/-- Passes over a value. -/
def passValue? (text : List Char) : Option (List Char) :=
  passValueFor? (2 * (text.length + 1)) text

end FilterQuery.Json
