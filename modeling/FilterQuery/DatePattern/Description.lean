/-!
# Describing date patterns

Messages show a date pattern the way people write dates, `YYYY-MM-DD` for
`%Y-%m-%d`.  Directives without such a spelling stay as they are.
-/

namespace FilterQuery.DatePattern

/-- The spelling of a directive, `%` and one character. -/
def describeDirective : Char → List Char
  | 'Y' => ['Y', 'Y', 'Y', 'Y']
  | 'y' => ['Y', 'Y']
  | 'm' => ['M', 'M']
  | 'd' => ['D', 'D']
  | 'H' => ['H', 'H']
  | 'M' => ['M', 'M']
  | 'S' => ['S', 'S']
  | '%' => ['%']
  | c => ['%', c]

/-- The description of a pattern, read from left to right: each `%` takes the
character after it along. -/
def describeChars : List Char → List Char
  | [] => []
  | ['%'] => ['%']
  | '%' :: c :: rest => describeDirective c ++ describeChars rest
  | c :: rest => c :: describeChars rest

/-- The description of a pattern text. -/
def describe (pattern : String) : String := String.ofList (describeChars pattern.toList)

end FilterQuery.DatePattern
