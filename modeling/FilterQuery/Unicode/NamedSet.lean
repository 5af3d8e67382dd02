import FilterQuery.Unicode.CodeSet

/-!
# Sets with names

The tables of characters list sets with the names by which they may be asked
for.  A name is written without case, blanks, hyphens and underscores.
-/

namespace FilterQuery.Unicode

/-- A set and its names. -/
structure NamedSet where
  names : List String
  codes : CodeSet
  deriving Repr

/-- The set with a name. -/
def NamedSet.find? (table : List NamedSet) (name : String) : Option CodeSet :=
  (table.find? (·.names.contains name)).map (·.codes)

end FilterQuery.Unicode
