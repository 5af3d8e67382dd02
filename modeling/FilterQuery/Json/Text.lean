import FilterQuery.Text.Hex
import FilterQuery.Text.Numeral

/-!
# JSON strings

The quoted strings of JSON.  Writing escapes quotes, backslashes and control
characters; reading takes every escape of the format, among them pairs of
surrogates for characters beyond the first plane.
-/

namespace FilterQuery.Json

open Text

/-! ## Writing -/

/-- A character inside the quotes. -/
def escapeChar (c : Char) : List Char :=
  match c with
  | '"' => ['\\', '"']
  | '\\' => ['\\', '\\']
  | '\x08' => ['\\', 'b']
  | '\t' => ['\\', 't']
  | '\n' => ['\\', 'n']
  | '\x0c' => ['\\', 'f']
  | '\r' => ['\\', 'r']
  | c =>
    if c.toNat < 32 then ['\\', 'u'] ++ Numeral.padLeft '0' 4 (Hex.digits c.toNat) else [c]

/-- A text with its quotes. -/
def encodeString (text : List Char) : List Char :=
  '"' :: (text.flatMap escapeChar ++ ['"'])

/-! ## Reading -/

/-- The characters that a letter after a backslash stands for. -/
def unescape? : Char → Option Char
  | '"' => some '"'
  | '\\' => some '\\'
  | '/' => some '/'
  | 'b' => some '\x08'
  | 'f' => some '\x0c'
  | 'n' => some '\n'
  | 'r' => some '\r'
  | 't' => some '\t'
  | _ => none

/-- Whether a code unit is the first of a pair of surrogates. -/
def isHighSurrogate (n : Nat) : Bool := decide (0xD800 ≤ n ∧ n ≤ 0xDBFF)

/-- Whether a code unit is the second of a pair of surrogates. -/
def isLowSurrogate (n : Nat) : Bool := decide (0xDC00 ≤ n ∧ n ≤ 0xDFFF)

/-- The character of a pair of surrogates. -/
def joinSurrogates (high low : Nat) : Char :=
  Char.ofNat (0x10000 + (high - 0xD800) * 0x400 + (low - 0xDC00))

/-- How far a string has been read. -/
inductive StringProgress where
  | plain
  /-- After a backslash. -/
  | escape
  /-- Before the last `left + 1` digits of a code unit, perhaps the second of
  a pair. -/
  | unit (left value : Nat) (high? : Option Nat)
  /-- After the first code unit of a pair, and perhaps a backslash. -/
  | pair (high : Nat) (backslash : Bool)
  deriving DecidableEq, Repr

/-- Reads a string up to its closing quote, and returns it with what follows
it. -/
def readString? : StringProgress → List Char → Option (List Char × List Char)
  | _, [] => none
  | .plain, c :: rest =>
    if c = '"' then some ([], rest)
    else if c = '\\' then readString? .escape rest
    else if c.toNat < 32 then none
    else (readString? .plain rest).map fun r => (c :: r.1, r.2)
  | .escape, c :: rest =>
    if c = 'u' then readString? (.unit 3 0 none) rest
    else
      match unescape? c with
      | some d => (readString? .plain rest).map fun r => (d :: r.1, r.2)
      | none => none
  | .unit left value high?, c :: rest =>
    match Hex.value? c with
    | none => none
    | some digit =>
      let value := 16 * value + digit
      match left, high? with
      | left + 1, _ => readString? (.unit left value high?) rest
      | 0, some high =>
        if isLowSurrogate value then
          (readString? .plain rest).map fun r => (joinSurrogates high value :: r.1, r.2)
        else none
      | 0, none =>
        if isHighSurrogate value then readString? (.pair value false) rest
        else if isLowSurrogate value then none
        else (readString? .plain rest).map fun r => (Char.ofNat value :: r.1, r.2)
  | .pair high backslash, c :: rest =>
    if backslash then
      if c = 'u' then readString? (.unit 3 0 (some high)) rest else none
    else if c = '\\' then readString? (.pair high true) rest
    else none

/-- Passes over a string up to its closing quote.  Its code units need not
form characters. -/
def passString? : StringProgress → List Char → Option (List Char)
  | _, [] => none
  | .plain, c :: rest =>
    if c = '"' then some rest
    else if c = '\\' then passString? .escape rest
    else if c.toNat < 32 then none
    else passString? .plain rest
  | .escape, c :: rest =>
    if c = 'u' then passString? (.unit 3 0 none) rest
    else if (unescape? c).isSome then passString? .plain rest
    else none
  | .unit left value high?, c :: rest =>
    if Hex.isDigit c then
      match left with
      | left + 1 => passString? (.unit left value high?) rest
      | 0 => passString? .plain rest
    else none
  | .pair _ _, _ => none

end FilterQuery.Json
