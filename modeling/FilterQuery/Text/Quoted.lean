/-!
# Quoted text

A query quotes its texts: a double quote at either end, and inside a
backslash before every double quote and every backslash.  `quote` writes that
form and `scan?` reads it back from the front of a longer text.
-/

namespace FilterQuery.Text.Quoted

/-- Whether a character needs a backslash before it. -/
def isSpecial (c : Char) : Bool := c == '"' || c == '\\'

/-- The text between the quotes. -/
def escape : List Char → List Char
  | [] => []
  | c :: rest => if isSpecial c then '\\' :: c :: escape rest else c :: escape rest

/-- The text with its quotes. -/
def encode (text : List Char) : List Char := '"' :: (escape text ++ ['"'])

/-- Reads up to the first quote that no backslash stands before.  A backslash
and the character after it stand for that character. -/
def scanBody? : List Char → Option (List Char × List Char)
  | [] => none
  | ['\\'] => none
  | '\\' :: c :: rest => (scanBody? rest).map fun r => (c :: r.1, r.2)
  | c :: rest =>
    if c == '"' then some ([], rest)
    else (scanBody? rest).map fun r => (c :: r.1, r.2)

/-- Reads one quoted text from the front of `input`, and returns it with what
follows it. -/
def scan? : List Char → Option (List Char × List Char)
  | '"' :: rest => scanBody? rest
  | _ => none

/-- The quoted form of a string. -/
def quote (text : String) : String := String.ofList (encode text.toList)

end FilterQuery.Text.Quoted
