import FilterQuery.Regex.Cursor
import FilterQuery.Regex.Node
import FilterQuery.Text.Numeral

/-!
# Repetition counts

The counts in braces after an item of a pattern.
-/

namespace FilterQuery.Regex

open Text

/-- The largest count. -/
def maxCount : Nat := Nat.pow 2 32 - 1

/-- Reads a decimal number with blanks around it. -/
def readDecimal (extended : Bool) (c : Cursor) : Except Error Nat × Cursor :=
  let start := (c.takeWhile false isBlank).2
  let (ds, stop) := start.takeWhile extended Char.isDigit
  let after := (stop.takeWhile extended isBlank).2
  let span := stop.spanFrom start.pos
  let result :=
    if ds.isEmpty then fail .countNotDecimal span
    else if maxCount < Numeral.value ds then fail .decimalTooLarge span
    else .ok (Numeral.value ds)
  (result, after)

/-- Reads the mark that asks for as few repetitions as possible, if there is
one. -/
def readLazyMark (least : Nat) (most? : Option Nat) (c : Cursor) : Repeats × Cursor :=
  if c.char? = some '?' then (⟨least, most?, false⟩, c.next) else (⟨least, most?, true⟩, c)

/-- Reads a count, with the cursor on its opening brace. -/
def readRepeats (extended : Bool) (c : Cursor) : Except Error (Repeats × Cursor) := do
  let start := c.pos
  let unclosed {α : Type} (c : Cursor) : Except Error α := fail .countUnclosed (c.spanFrom start)
  let body := c.step extended
  if body.atEnd then unclosed body else
  let (least, afterLeast) := readDecimal extended body
  if afterLeast.atEnd then unclosed afterLeast else
  let finish (least : Nat) (most? : Option Nat) (close : Cursor) :
      Except Error (Repeats × Cursor) :=
    if close.char? == some '}' then
      let (repeats, after) := readLazyMark least most? (close.step extended)
      if most?.any (· < least) then fail .countReversed (after.spanFrom start)
      else .ok (repeats, after)
    else unclosed close
  if afterLeast.char? == some ',' then
    let second := afterLeast.step extended
    if second.atEnd then unclosed second
    else if second.char? == some '}' then finish (← least) none second
    else
      let least ← least
      let (most, close) := readDecimal extended second
      finish least (some (← most)) close
  else
    let count ← least
    finish count (some count) afterLeast

end FilterQuery.Regex
