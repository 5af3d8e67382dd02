import FilterQuery.Unicode.CodeSet

/-!
# Bytes of characters

The encoding of characters by one to four bytes.  A range of codes is encoded
by sequences of byte ranges: every choice of one byte from each range of a
sequence is a character, and every character is such a choice.
-/

namespace FilterQuery.Text.Utf8

open Unicode

/-- The bytes from `first` to `last`. -/
structure ByteRange where
  first : Nat
  last : Nat
  deriving DecidableEq, Repr, Inhabited

/-- The bytes of a character. -/
def bytes (n : Nat) : List Nat :=
  let tail (block : Nat) : Nat := 0x80 + n / block % 64
  if n < 0x80 then [n]
  else if n < 0x800 then [0xC0 + n / 64, tail 1]
  else if n < 0x10000 then [0xE0 + n / 4096, tail 64, tail 1]
  else [0xF0 + n / 262144, tail 4096, tail 64, tail 1]

/-- The number of bytes of a character. -/
def size (n : Nat) : Nat :=
  if n < 0x80 then 1 else if n < 0x800 then 2 else if n < 0x10000 then 3 else 4

theorem length_bytes (n : Nat) : (bytes n).length = size n := by
  simp only [bytes, size]
  split
  · rfl
  split
  · rfl
  split <;> rfl

/-- Splits a range after a code. -/
def splitAfter (code : Nat) (r : CodeRange) : List CodeRange :=
  if r.first ≤ code ∧ code < r.last then [⟨r.first, code⟩, ⟨code + 1, r.last⟩] else [r]

/-- The parts of a range whose codes have bytes in equal number. -/
def splitByLength (r : CodeRange) : List CodeRange :=
  let plain := [CodeRange.mk 0 0xD7FF, ⟨0xE000, maxCode⟩].filterMap r.inter?
  ((plain.flatMap (splitAfter 0x7F)).flatMap (splitAfter 0x7FF)).flatMap (splitAfter 0xFFFF)

/-- Splits a range at its first and its last multiple of a block, and what is
between these in the same way for larger blocks.  A range inside of one block
stays whole. -/
def splitByBlocks : List Nat → CodeRange → List CodeRange
  | [], r => [r]
  | block :: blocks, r =>
    if r.first / block = r.last / block then [r]
    else
      let start := (r.first + block - 1) / block * block
      let stop := (r.last + 1) / block * block
      let front := if r.first < start then [⟨r.first, start - 1⟩] else []
      let back := if stop ≤ r.last then [⟨stop, r.last⟩] else []
      let middle := if start < stop then splitByBlocks blocks ⟨start, stop - 1⟩ else []
      front ++ middle ++ back

/-- The byte ranges of codes that differ in trailing bytes only as a whole. -/
def byteRanges (r : CodeRange) : List ByteRange :=
  List.zipWith ByteRange.mk (bytes r.first) (bytes r.last)

/-- The sequences of byte ranges that encode a range. -/
def sequences (r : CodeRange) : List (List ByteRange) :=
  (splitByLength r).flatMap fun part =>
    if part.last < 0x80 then [byteRanges part]
    else (splitByBlocks [64, 4096, 262144] part).map byteRanges

end FilterQuery.Text.Utf8
