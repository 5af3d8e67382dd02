import FilterQuery.Unicode.Binary
import FilterQuery.Unicode.Newer

/-!
# Printable characters

A message that quotes a text shows a character as it is only if a reader can
see it, and see where it stands.
-/

namespace FilterQuery.Text

open Unicode

/-- The characters that are not shown as they are: those of the categories
`Other` and `Separator` but the space, those that extend the character before
them, and those that show nothing. -/
def hidden : CodeSet :=
  .unions
    [Category.other \ Newer.characters, Category.separator \ .ofText "20",
      Binary.graphemeExtend, Newer.extenders, Binary.defaultIgnorable]

/-- Whether a character is shown as it is. -/
def isPrintable (c : Char) : Bool := !hidden.contains c.toNat

end FilterQuery.Text
