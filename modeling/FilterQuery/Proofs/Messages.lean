import FilterQuery.Problem
import Mathlib.Data.List.TakeWhile

/-!
# What a message tells

A message quotes names, texts and reasons as they are, so that it need not be
possible to read all parts of a problem off it.  It does tell which form the
problem has and where it is.

There are three groups.

* Positions.  A number in front of a colon can be read back
  (`Numeral.eq_of_digits_append`), and so can the position in front of a
  description (`Position.eq_of_text_append`).
* Descriptions.  `Problem.openings` are the words before any text that a
  description quotes.  Nine characters of them tell the forms of problems apart
  (`ctorIdx_of_description_eq`).
* Messages.  `message_determines` joins the two.
-/

namespace FilterQuery

open Text

/-! ## Positions -/

/-- A number in front of a colon is told from what follows it. -/
theorem Text.Numeral.eq_of_digits_append {m n : Nat} {x y : List Char}
    (h : digits m ++ ':' :: x = digits n ++ ':' :: y) : m = n ∧ x = y := by
  have htake : ∀ k z, (digits k ++ ':' :: z).takeWhile Char.isDigit = digits k := by
    intro k z
    rw [List.takeWhile_append_of_pos fun c hc => isDigit_of_mem_digits hc,
      List.takeWhile_cons_of_neg (by decide), List.append_nil]
  have hdigits : digits m = digits n := by rw [← htake m x, h, htake]
  have hnumber : m = n := by rw [← value_digits m, hdigits, value_digits]
  subst hnumber
  exact ⟨rfl, (List.cons.inj (List.append_cancel_left h)).2⟩

theorem Position.toList_text (p : Position) :
    p.text.toList = Numeral.digits p.line ++ ':' :: Numeral.digits p.column := by
  simp [text, Numeral.text]

/-- A position in front of a colon is told from what follows it. -/
theorem Position.eq_of_text_append {p q : Position} {x y : String}
    (h : p.text ++ ": " ++ x = q.text ++ ": " ++ y) : p = q ∧ x = y := by
  have hlist := congrArg String.toList h
  simp only [String.toList_append, toList_text, List.append_assoc, List.cons_append] at hlist
  obtain ⟨hline, hrest⟩ := Numeral.eq_of_digits_append hlist
  obtain ⟨hcolumn, htail⟩ := Numeral.eq_of_digits_append hrest
  obtain ⟨line, column⟩ := p
  exact ⟨by cases hline; cases hcolumn; rfl, String.toList_inj.1 (List.cons.inj htail).2⟩

/-- A position begins with a digit, and so with no word. -/
theorem Position.text_append_ne (p : Position) {word : String} {c : Char} {cs : List Char}
    (hword : word.toList = c :: cs) (hc : c.isDigit = false) (x y : String) :
    p.text ++ x ≠ word ++ y := by
  intro h
  have hlist := congrArg String.toList h
  rw [String.toList_append, String.toList_append, toList_text, hword] at hlist
  cases hline : Numeral.digits p.line with
  | nil => exact Nat.toDigits_ne_nil hline
  | cons d ds =>
    have hd : d.isDigit = true := by
      apply Numeral.isDigit_of_mem_digits
      rw [hline]
      exact List.mem_cons_self
    rw [hline, List.cons_append, List.cons_append, List.cons_append] at hlist
    rw [(List.cons.inj hlist).1, hc] at hd
    cases hd

namespace Problem

/-! ## Descriptions -/

/-- The words with which descriptions open, form by form, up to the first text that they
quote. -/
def openings : List String :=
  ["Expected logical expression but received expression of type ",
    "Invalid field: ",
    "Expression in parentheses must resolve to a boolean value",
    "NOT operator can only be applied to expressions that resolve to a boolean value",
    "Operands of a logical operator must resolve to boolean values",
    "Comparison expressions must compare value types",
    "Invalid operator ",
    "Invalid date: ",
    "Invalid regex ",
    "Argument on "]

theorem exists_description_eq (p : Problem) :
    ∃ rest, p.description = openings.getD p.ctorIdx "" ++ rest := by
  cases p with
  | notLogical form => exact ⟨form, rfl⟩
  | unknownField _ name => exact ⟨name, rfl⟩
  | parenNotBoolean | negationNotBoolean | connectiveNotBoolean | comparisonOfBoolean =>
    exact ⟨"", String.append_empty.symm⟩
  | misplacedOperator _ token place =>
    refine ⟨token ++ (" in " ++ (place.text ++ " expression")), ?_⟩
    simp only [← String.append_assoc]
    rfl
  | invalidDate _ raw dateFormat dateTimeFormat =>
    refine ⟨raw ++ (". Format must be either " ++ (dateFormat ++ (" or " ++ dateTimeFormat))), ?_⟩
    simp only [← String.append_assoc]
    rfl
  | invalidRegex _ raw reason =>
    refine ⟨raw ++ (": " ++ reason), ?_⟩
    simp only [← String.append_assoc]
    rfl
  | invalidOperand _ side actual allowed =>
    refine ⟨side.text ++ (" has invalid type: " ++ (actual.name ++ (". Allowed types are: " ++
      ", ".intercalate (allowed.map FieldType.name)))), ?_⟩
    simp only [← String.append_assoc]
    rfl

theorem ctorIdx_lt (p : Problem) : p.ctorIdx < openings.length := by
  cases p <;> exact of_decide_eq_true rfl

/-- No two forms of problems have descriptions that open alike: their first nine characters
are before any text that they quote, and all different. -/
theorem ctorIdx_of_description_eq {p q : Problem} (h : p.description = q.description) :
    p.ctorIdx = q.ctorIdx := by
  have hlong : ∀ i < openings.length, 9 ≤ (openings.getD i "").toList.length := by decide
  have hdistinct : ∀ i < openings.length, ∀ j < openings.length,
      (openings.getD i "").toList.take 9 = (openings.getD j "").toList.take 9 → i = j := by
    decide
  have htake : ∀ r : Problem, r.description.toList.take 9 =
      (openings.getD r.ctorIdx "").toList.take 9 := by
    intro r
    obtain ⟨rest, hrest⟩ := r.exists_description_eq
    rw [hrest, String.toList_append, List.take_append_of_le_length (hlong _ r.ctorIdx_lt)]
  apply hdistinct _ p.ctorIdx_lt _ q.ctorIdx_lt
  rw [← htake, ← htake, h]

/-- The form of a problem gives its kind. -/
theorem kind_of_ctorIdx_eq {p q : Problem} (h : p.ctorIdx = q.ctorIdx) : p.kind = q.kind := by
  cases p <;> cases q <;> first | rfl | cases h

/-! ## Messages -/

theorem pos?_eq_none_iff {p : Problem} : p.pos? = none ↔ ∃ form, p = .notLogical form := by
  cases p <;> simp [pos?]

theorem message_of_pos? {p : Problem} {pos : Position} (h : p.pos? = some pos) :
    p.message = pos.text ++ ": " ++ p.description := by
  rw [message, h]

theorem message_of_pos?_eq_none {p : Problem} (h : p.pos? = none) :
    p.message = p.description := by
  rw [message, h]

theorem toList_expected : "Expected".toList = ['E', 'x', 'p', 'e', 'c', 't', 'e', 'd'] := by
  decide

theorem message_notLogical (form : String) :
    (notLogical form).message =
      "Expected" ++ (" logical expression but received expression of type " ++ form) := by
  have hwords : "Expected" ++ " logical expression but received expression of type " =
      "Expected logical expression but received expression of type " := by decide
  rw [← String.append_assoc, hwords]
  rfl

/-- A message opens with a position exactly if the problem has it. -/
theorem pos?_eq_some_iff {p : Problem} {pos : Position} :
    p.pos? = some pos ↔ ∃ rest, p.message = pos.text ++ ": " ++ rest := by
  constructor
  · intro h
    exact ⟨p.description, message_of_pos? h⟩
  · rintro ⟨rest, hrest⟩
    cases hpos : p.pos? with
    | none =>
      obtain ⟨form, rfl⟩ := pos?_eq_none_iff.1 hpos
      rw [message_notLogical, String.append_assoc] at hrest
      exact absurd hrest.symm (pos.text_append_ne toList_expected rfl _ _)
    | some pos' =>
      rw [message_of_pos? hpos] at hrest
      rw [(Position.eq_of_text_append hrest).1]

/-- A message opens with the word for an expectation exactly if the problem has no
position. -/
theorem pos?_eq_none_iff_message {p : Problem} :
    p.pos? = none ↔ ∃ rest, p.message = "Expected" ++ rest := by
  constructor
  · intro h
    obtain ⟨form, rfl⟩ := pos?_eq_none_iff.1 h
    exact ⟨_, message_notLogical form⟩
  · rintro ⟨rest, hrest⟩
    cases hpos : p.pos? with
    | none => rfl
    | some pos =>
      rw [message_of_pos? hpos, String.append_assoc] at hrest
      exact absurd hrest (pos.text_append_ne toList_expected rfl _ _)

theorem pos?_of_message_eq {p q : Problem} (h : p.message = q.message) : p.pos? = q.pos? := by
  cases hpos : q.pos? with
  | none => rwa [pos?_eq_none_iff_message, h, ← pos?_eq_none_iff_message]
  | some pos => rwa [pos?_eq_some_iff, h, ← pos?_eq_some_iff]

theorem description_of_message_eq {p q : Problem} (h : p.message = q.message) :
    p.description = q.description := by
  have hsame := pos?_of_message_eq h
  cases hpos : q.pos? with
  | none => rwa [message_of_pos?_eq_none (hsame.trans hpos), message_of_pos?_eq_none hpos] at h
  | some pos =>
    rw [message_of_pos? (hsame.trans hpos), message_of_pos? hpos] at h
    exact (Position.eq_of_text_append h).2

/-- The message for a problem tells its form, and so its kind, and its position.  It opens
with a position exactly if the problem is there, and a problem has none exactly if it is
that the query has no logical form, for which there is a word of its own. -/
theorem message_determines (p q : Problem) :
    (p.message = q.message →
      p.ctorIdx = q.ctorIdx ∧ p.kind = q.kind ∧ p.pos? = q.pos?) ∧
    (∀ pos, p.pos? = some pos ↔ ∃ rest, p.message = pos.text ++ ": " ++ rest) ∧
    (p.pos? = none ↔ ∃ form, p = .notLogical form) ∧
    (p.pos? = none ↔ ∃ rest, p.message = "Expected" ++ rest) := by
  refine ⟨?_, fun pos => pos?_eq_some_iff, pos?_eq_none_iff, pos?_eq_none_iff_message⟩
  intro h
  have hform := ctorIdx_of_description_eq (description_of_message_eq h)
  exact ⟨hform, kind_of_ctorIdx_eq hform, pos?_of_message_eq h⟩

/-- The theorem at two regular expressions that are quoted with their reasons to the same
message, which tells all the same what is wrong and where. -/
theorem message_determines_of_two_regexes :
    let p := invalidRegex ⟨2, 17⟩ "a: b" "c"
    let q := invalidRegex ⟨2, 17⟩ "a" "b: c"
    p ≠ q ∧ p.message = q.message ∧ p.ctorIdx = q.ctorIdx ∧ p.kind = q.kind ∧ p.pos? = q.pos? ∧
      ∃ rest, p.message = (⟨2, 17⟩ : Position).text ++ ": " ++ rest := by
  intro p q
  have h : p.message = q.message := by decide +kernel
  obtain ⟨hsame, hpos, -⟩ := message_determines p q
  obtain ⟨hform, hkind, hplace⟩ := hsame h
  exact ⟨by decide, h, hform, hkind, hplace, (hpos _).1 rfl⟩

end Problem

end FilterQuery
