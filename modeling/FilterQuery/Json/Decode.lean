import FilterQuery.Json.Float
import FilterQuery.Text.Printable

/-!
# Decoding JSON

What a decoder finds in a JSON text where it wants something else, and the
errors it makes of it.  A text is either malformed, or well formed as far as
it was read and of the wrong content.
-/

namespace FilterQuery.Json

open Text

/-- A value where another one was wanted. -/
inductive Found where
  | null
  | boolean (value : Bool)
  | integer (value : Int)
  | float (value : Number)
  | string (text : List Char)
  | sequence
  | map
  deriving DecidableEq, Repr

/-! ## The words for a value -/

/-- A character as messages quote it: a character that is not printable by its
code. -/
def showChar (c : Char) : List Char :=
  match c with
  | '"' => ['\\', '"']
  | '\\' => ['\\', '\\']
  | '\t' => ['\\', 't']
  | '\n' => ['\\', 'n']
  | '\r' => ['\\', 'r']
  | '\x00' => ['\\', '0']
  | c =>
    if isPrintable c then [c] else ['\\', 'u', '{'] ++ Hex.digits c.toNat ++ ['}']

/-- The words for a value. -/
def Found.text : Found → List Char
  | null => "null".toList
  | boolean value => "boolean `".toList ++ (if value then "true`" else "false`").toList
  | integer value =>
    "integer `".toList ++ (if value < 0 then ['-'] else []) ++
      Text.Numeral.digits value.natAbs ++ ['`']
  | float value => "floating point `".toList ++ floatText value ++ ['`']
  | string text => "string \"".toList ++ text.flatMap showChar ++ ['"']
  | sequence => "sequence".toList
  | map => "map".toList

/-! ## Errors -/

/-- Why a JSON text could not be decoded. -/
inductive DecodeError where
  /-- The text is not JSON. -/
  | malformed
  | invalidType (found : Found) (wanted : String)
  | duplicateField (name : String)
  | unknownVariant (name : String) (variants : List String)
  deriving DecidableEq, Repr

/-- The words for an error of content. -/
def DecodeError.message? : DecodeError → Option String
  | malformed => none
  | invalidType found wanted =>
    some ("invalid type: " ++ String.ofList found.text ++ ", expected " ++ wanted)
  | duplicateField name => some ("duplicate field `" ++ name ++ "`")
  | unknownVariant name variants =>
    some ("unknown variant `" ++ name ++ "`, expected one of " ++
      ", ".intercalate (variants.map fun v => "`" ++ v ++ "`"))

/-! ## Reading -/

/-- The value of a number: an integer if it is written as one and fits in 64
bits, and else a floating-point number. -/
def numberFound? (n : Numeral) : Option Found :=
  let size := Text.Numeral.value n.whole
  let isInteger := n.fraction?.isNone && n.exponent?.isNone
  if isInteger && !n.negative && decide (size < Nat.pow 2 64) then some (.integer size)
  else if isInteger && n.negative && decide (0 < size ∧ size ≤ Nat.pow 2 63) then
    some (.integer (-size))
  else n.float?.map .float

/-- The error of finding a value, of which the text holds at least the
beginning, where `wanted` stands for something else. -/
def unexpected (wanted : String) (text : List Char) : DecodeError :=
  let found? : Option Found :=
    match text with
    | 'n' :: rest => (dropWord? ['u', 'l', 'l'] rest).map fun _ => .null
    | 't' :: rest => (dropWord? ['r', 'u', 'e'] rest).map fun _ => .boolean true
    | 'f' :: rest => (dropWord? ['a', 'l', 's', 'e'] rest).map fun _ => .boolean false
    | '"' :: rest => (readString? .plain rest).map fun r => .string r.1
    | '[' :: _ => some .sequence
    | '{' :: _ => some .map
    | text => (readNumeral? text).bind fun r => numberFound? r.1
  match found? with
  | some found => .invalidType found wanted
  | none => .malformed

/-- Reads a string, after blanks. -/
def readStringAs (wanted : String) (text : List Char) :
    Except DecodeError (List Char × List Char) :=
  match skipSpace text with
  | '"' :: rest =>
    match readString? .plain rest with
    | some r => .ok r
    | none => .error .malformed
  | rest => .error (unexpected wanted rest)

/-- Reads a colon, after blanks. -/
def readColon (text : List Char) : Except DecodeError (List Char) :=
  match skipSpace text with
  | ':' :: rest => .ok rest
  | _ => .error .malformed

/-- Checks that nothing but blanks follows. -/
def readEnd (text : List Char) : Except DecodeError Unit :=
  if (skipSpace text).isEmpty then .ok () else .error .malformed

end FilterQuery.Json
