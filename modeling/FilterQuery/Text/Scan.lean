/-!
# Taking words and digits from a text

The two steps that the readers of dates, patterns and JSON share: taking a
fixed word and taking a run of decimal digits from the front of a text.
-/

namespace FilterQuery.Text

/-- What follows a word, if the text begins with it. -/
def dropWord? : List Char → List Char → Option (List Char)
  | [], text => some text
  | c :: word, d :: text => if c = d then dropWord? word text else none
  | _ :: _, [] => none

/-- A word is taken exactly from the texts that begin with it. -/
theorem dropWord?_eq_some {word text rest : List Char} :
    dropWord? word text = some rest ↔ text = word ++ rest := by
  induction word generalizing text with
  | nil => simp [dropWord?]
  | cons c word ih =>
    cases text with
    | nil => simp [dropWord?]
    | cons d text =>
      by_cases h : c = d
      · simp [dropWord?, h, ih]
      · simp [dropWord?, h, Ne.symm h]

/-- The digits at the front of a text, at least one and at most `width` of
them, and what follows them. -/
def takeDigits? (width : Nat) (text : List Char) : Option (List Char × List Char) :=
  let ds := (text.take width).takeWhile Char.isDigit
  if ds.isEmpty then none else some (ds, text.drop ds.length)

end FilterQuery.Text
