import FilterQuery.Proofs.Congruence
import FilterQuery.Proofs.Log

/-!
# Equality as a partial equivalence

Equality of expressions compares numbers as numbers, dates as instants and regular
expressions by their sources.  It can be turned around and chained all the same,
and the only expressions that do not equal themselves are those with a NaN.

There are two groups.

* Numbers.  The three laws for `Number.isEqual`, where a NaN equals nothing and
  the two zeros are equal.
* Expressions.  `Equals.symm` and `Equals.trans` are inductions over the rules of
  equality.  An expression that equals itself does so in all of its parts
  (`Equals.of_mem_nodes`), its numbers among them, and so holds no NaN.
-/

namespace FilterQuery

/-! ## Numbers -/

namespace Number

theorem isEqual_iff {x y : Number} :
    x.isEqual y = true ↔ x.isNaN = false ∧ y.isNaN = false ∧
      (x = y ∨ x.isZero = true ∧ y.isZero = true) := by
  cases x
  cases y
  simp [isEqual, and_assoc]

theorem isEqual_symm {x y : Number} (h : x.isEqual y = true) : y.isEqual x = true := by
  obtain ⟨hx, hy, hsame⟩ := isEqual_iff.1 h
  exact isEqual_iff.2 ⟨hy, hx, hsame.imp Eq.symm And.symm⟩

theorem isEqual_trans {x y z : Number} (hxy : x.isEqual y = true) (hyz : y.isEqual z = true) :
    x.isEqual z = true := by
  obtain ⟨hx, -, hsame⟩ := isEqual_iff.1 hxy
  obtain ⟨-, hz, hsame'⟩ := isEqual_iff.1 hyz
  refine isEqual_iff.2 ⟨hx, hz, ?_⟩
  -- Unless a step keeps the number as it is, both go from a zero to a zero.
  rcases hsame with rfl | ⟨hxzero, hyzero⟩
  · exact hsame'
  · rcases hsame' with rfl | ⟨-, hzzero⟩
    · exact .inr ⟨hxzero, hyzero⟩
    · exact .inr ⟨hxzero, hzzero⟩

end Number

/-! ## Expressions -/

namespace Expr

theorem Equals.symm {a b : Expr} (h : Equals a b) : Equals b a := by
  induction h with
  | identifier => exact .identifier
  | string => exact .string
  | number value => exact .number (Number.isEqual_symm value)
  | date instant => exact .date instant.symm
  | glob => exact .glob
  | regex source => exact .regex source.symm
  | unary _ ih => exact .unary ih
  | binary _ _ ihl ihr => exact .binary ihl ihr
  | paren _ ih => exact .paren ih

theorem Equals.trans {a b c : Expr} (hab : Equals a b) (hbc : Equals b c) : Equals a c := by
  induction hab generalizing c with
  | identifier | string | glob => exact hbc
  | number value =>
    cases hbc with
    | number value' => exact .number (Number.isEqual_trans value value')
  | date instant =>
    cases hbc with
    | date instant' => exact .date (instant.trans instant')
  | regex source =>
    cases hbc with
    | regex source' => exact .regex (source.trans source')
  | unary _ ih =>
    cases hbc with
    | unary operand => exact .unary (ih operand)
  | binary _ _ ihl ihr =>
    cases hbc with
    | binary left right => exact .binary (ihl left) (ihr right)
  | paren _ ih =>
    cases hbc with
    | paren inner => exact .paren (ih inner)

/-- An expression that equals itself does so in all of its parts. -/
theorem Equals.of_mem_nodes {a : Expr} (h : Equals a a) : ∀ part ∈ a.nodes, Equals part part := by
  induction a with
  | unary op operand ih =>
    cases h with
    | unary hoperand => exact forall_mem_nodes_unary.2 ⟨ih hoperand, .unary hoperand⟩
  | binary op lhs rhs ihl ihr =>
    cases h with
    | binary left right =>
      exact forall_mem_nodes_binary.2 ⟨ihl left, ihr right, .binary left right⟩
  | paren inner ih =>
    cases h with
    | paren hinner => exact forall_mem_nodes_paren.2 ⟨ih hinner, .paren hinner⟩
  | _ => exact List.forall_mem_singleton.2 h

theorem Equals.naNFree {a : Expr} (h : Equals a a) : a.NaNFree := by
  intro value pos hnode
  cases h.of_mem_nodes _ hnode with
  | number hvalue => exact (Number.isEqual_iff.1 hvalue).1

/-- Equality of expressions is a partial equivalence: it can be turned around and chained,
and an expression equals itself exactly if none of its numbers, at any depth, is a NaN. -/
theorem isEqual_partialEquivalence (a b c : Expr) :
    (a.isEqual b = true → b.isEqual a = true) ∧
    (a.isEqual b = true → b.isEqual c = true → a.isEqual c = true) ∧
    (a.isEqual a = true ↔ a.NaNFree) := by
  simp only [isEqual_iff_equals]
  refine ⟨Equals.symm, Equals.trans, Equals.naNFree, ?_⟩
  intro h
  exact isEqual_iff_equals.1 (isEqual_self h)

/-- The theorem at `NOT (Size > 0 AND At < noon)` with zeros of both signs and the same noon
in three time zones, and at this query with a NaN in place of the zero. -/
theorem isEqual_partialEquivalence_of_three_noons :
    let noon : Instant := ⟨1500206400, 0, by decide⟩
    let query (size : Number) (offset : Int) := negation ⟨1, 1⟩ (.paren (.join .and ⟨1, 15⟩
      (.join .gt ⟨1, 11⟩ (.identifier "Size" ⟨1, 6⟩) (.number size ⟨1, 13⟩))
      (.join .lt ⟨1, 22⟩ (.identifier "At" ⟨1, 19⟩) (.date ⟨noon, offset⟩ ⟨1, 24⟩))))
    let a := query ⟨0⟩ 0
    let b := query ⟨0x8000000000000000⟩ 3600
    let c := query ⟨0⟩ 7200
    let nan := query ⟨0x7FF8000000000000⟩ 0
    a ≠ b ∧ b ≠ c ∧ a.isEqual b = true ∧ b.isEqual a = true ∧ b.isEqual c = true ∧
      a.isEqual c = true ∧ a.NaNFree ∧ nan.isEqual nan = false ∧ ¬ nan.NaNFree := by
  intro noon query a b c nan
  have hab : a.isEqual b = true := by decide
  have hbc : b.isEqual c = true := by decide
  have hself : a.isEqual a = true := by decide
  have hnan : nan.isEqual nan = false := by decide
  obtain ⟨hsymm, htrans, hrefl⟩ := isEqual_partialEquivalence a b c
  have hnumbers : ¬ nan.NaNFree := by
    rw [← (isEqual_partialEquivalence nan nan nan).2.2, hnan]
    exact Bool.false_ne_true
  exact ⟨by decide, by decide, hab, hsymm hab, hbc, htrans hab hbc, hrefl.1 hself, hnan, hnumbers⟩

end Expr

end FilterQuery
