import FilterQuery.Proofs.Node
import FilterQuery.Zone.Table
import Mathlib.Tactic.ByContra

/-!
# Refining a refined query

A second refinement sees literals where the first one saw strings.  This
module says exactly what that changes.

There are four groups.

* One operand.  A conversion that succeeded leaves nothing to convert, and
  one that failed fails again: `convertOperand_again`.
* One operator.  `IsTextMatch` is the one form of node on which the two
  passes disagree, a pattern comparison of two string literals of which the
  right one is converted.  The first pass takes its right operand for the
  pattern.  The second pass finds one string literal only, the left one, and
  takes that.
* Whole expressions.  `IsSettled` says that there is no such node.  The
  second pass reports every problem again (`problems_sublist_refine`), and
  it changes nothing exactly on settled expressions
  (`isFixed_iff_isSettled`).  Refined expressions are settled
  (`isSettled_refine`), so a third pass never changes anything.
* Queries.  `process_again_iff` carries this over to `process`.  In a query
  without problems the text matches are the pattern comparisons of two
  string literals (`isSettled_iff_of_problems_eq_nil`).
-/

namespace FilterQuery

namespace Context

/-! ## One operand -/

/-- A conversion leaves an operand as it is, or makes it a literal that is no
string and finds no problem. -/
theorem convertOperand_cases (ctx : Context) (op : Operator) (side : Side)
    (other e : Expr) :
    (ctx.convertOperand op side other e).1 = e ∨
      isStringLiteral (ctx.convertOperand op side other e).1 = false ∧
        Event.problems (ctx.convertOperand op side other e).2 = [] := by
  cases he : isStringLiteral e with
  | false =>
    rw [convertOperand_of_not_isStringLiteral ctx op side other he]
    exact .inl rfl
  | true =>
    obtain ⟨raw, pos, rfl⟩ := eq_string_of_isStringLiteral he
    obtain ⟨leaf, events, heq, hstep⟩ := literalStep ctx op side other raw pos
    rw [heq]
    cases hstep with
    | kept | notDate | notRegex => exact .inl rfl
    | toDate | toGlob | toRegex => exact .inr ⟨rfl, rfl⟩

/-- What is a string literal after refinement was the same one before. -/
theorem refineOperand_eq_self (ctx : Context) (op : Operator) (side : Side) (other : Expr)
    {e : Expr} (h : isStringLiteral (ctx.refineOperand op side other e) = true) :
    isStringLiteral e = true ∧ ctx.refineOperand op side other e = e := by
  cases he : isStringLiteral e with
  | false =>
    rw [refineOperand_of_not_isStringLiteral ctx op side other he, isStringLiteral_refine,
      he] at h
    cases h
  | true =>
    rw [refineOperand_of_isStringLiteral ctx op side other he] at h ⊢
    rcases convertOperand_cases ctx op side other e with heq | ⟨hno, _⟩
    · exact ⟨rfl, heq⟩
    · rw [hno] at h
      cases h

/-- The problems of a conversion that left no string literal. -/
theorem problems_convertOperand_of_not_isStringLiteral (ctx : Context) (op : Operator)
    (side : Side) (other : Expr) {e : Expr}
    (h : isStringLiteral (ctx.refineOperand op side other e) = false) :
    Event.problems (ctx.convertOperand op side other e).2 = [] := by
  cases he : isStringLiteral e with
  | false =>
    rw [convertOperand_of_not_isStringLiteral ctx op side other he]
    rfl
  | true =>
    rw [refineOperand_of_isStringLiteral ctx op side other he] at h
    rcases convertOperand_cases ctx op side other e with heq | ⟨_, hnil⟩
    · rw [heq, he] at h
      cases h
    · exact hnil

/-- A second conversion of an operand does nothing new, whatever has become of
the other operand, as long as a string literal that was left is treated
alike. -/
theorem convertOperand_again (ctx : Context) (op : Operator) (side : Side)
    {other other' e : Expr}
    (h : isStringLiteral (ctx.refineOperand op side other e) = true →
      ctx.convertOperand op side other' e = ctx.convertOperand op side other e) :
    (ctx.convertOperand op side other' (ctx.refineOperand op side other e)).1 =
        ctx.refineOperand op side other e ∧
      Event.problems (ctx.convertOperand op side other' (ctx.refineOperand op side other e)).2 =
        Event.problems (ctx.convertOperand op side other e).2 := by
  cases hstring : isStringLiteral (ctx.refineOperand op side other e) with
  | false =>
    rw [convertOperand_of_not_isStringLiteral ctx op side other' hstring,
      problems_convertOperand_of_not_isStringLiteral ctx op side other hstring]
    exact ⟨rfl, rfl⟩
  | true =>
    obtain ⟨he, heq⟩ := refineOperand_eq_self ctx op side other hstring
    have hfirst := refineOperand_of_isStringLiteral ctx op side other he
    rw [heq, h hstring, ← hfirst, heq]
    exact ⟨rfl, rfl⟩

/-! ## One operator -/

/-- An operand keeps its type, but for a text that a plain comparison with a
date turns into one. -/
theorem typeOf_refineOperand (ctx : Context) (op : Operator) (side : Side)
    (other e : Expr) :
    ctx.typeOf (ctx.refineOperand op side other e) = ctx.typeOf e ∨
      op.kind.isPattern = false ∧ ctx.typeOf other = .date ∧ ctx.typeOf e = .string ∧
        ctx.typeOf (ctx.refineOperand op side other e) = .date := by
  cases he : isStringLiteral e with
  | false =>
    rw [refineOperand_of_not_isStringLiteral ctx op side other he, typeOf_refine]
    exact .inl rfl
  | true =>
    obtain ⟨raw, pos, rfl⟩ := eq_string_of_isStringLiteral he
    obtain ⟨leaf, events, heq, hstep⟩ := literalStep ctx op side other raw pos
    rw [refineOperand_of_isStringLiteral ctx op side other he, heq]
    cases hstep with
    | toDate kind date => exact .inr ⟨(mem_plainKinds_iff.1 kind).2, date, rfl, rfl⟩
    | _ => exact .inl rfl

theorem typeOf_refineOperand_eq_boolean_iff (ctx : Context) (op : Operator) (side : Side)
    (other e : Expr) :
    ctx.typeOf (ctx.refineOperand op side other e) = .boolean ↔ ctx.typeOf e = .boolean := by
  rcases typeOf_refineOperand ctx op side other e with heq | ⟨_, _, hstring, hdate⟩
  · rw [heq]
  · rw [hstring, hdate]
    decide

/-- Only pattern operators ask more of a type than whether it is Boolean. -/
theorem checkBinary_congr {op : Operator} (hplain : op.kind.isPattern = false)
    {lhs lhs' rhs rhs' : FieldType} (hl : lhs' = .boolean ↔ lhs = .boolean)
    (hr : rhs' = .boolean ↔ rhs = .boolean) :
    checkBinary op lhs' rhs' = checkBinary op lhs rhs := by
  simp only [checkBinary, checkConnective, checkValueTypes, FieldType.isValueType,
    checkOperand_plain op _ _ hplain, bne, Bool.and_eq_true, Bool.not_eq_true', beq_eq_false_iff_ne,
    ne_eq, hl, hr]

/-- The checks of an operator come out the same on refined operands. -/
theorem checkBinary_refineOperand (ctx : Context) (op : Operator) (lhs rhs : Expr) :
    checkBinary op (ctx.typeOf (ctx.refineOperand op .lhs rhs lhs))
        (ctx.typeOf (ctx.refineOperand op .rhs lhs rhs)) =
      checkBinary op (ctx.typeOf lhs) (ctx.typeOf rhs) := by
  cases hpattern : op.kind.isPattern with
  | true =>
    have hkeep : ∀ side other e,
        ctx.typeOf (ctx.refineOperand op side other e) = ctx.typeOf e := by
      intro side other e
      refine (typeOf_refineOperand ctx op side other e).resolve_right fun h => ?_
      rw [hpattern] at h
      cases h.1
    rw [hkeep, hkeep]
  | false =>
    exact checkBinary_congr hpattern
      (typeOf_refineOperand_eq_boolean_iff ctx op .lhs rhs lhs)
      (typeOf_refineOperand_eq_boolean_iff ctx op .rhs lhs rhs)

/-- A pattern comparison of two string literals of which the right one, taken
for the pattern, is converted. -/
inductive IsTextMatch : Expr → Prop where
  | glob {op raw pos pattern patternPos} (kind : op.kind = .glob) :
      IsTextMatch (.binary op (.string raw pos) (.string pattern patternPos))
  | regexp {op raw pos pattern patternPos value} (kind : op.kind = .regexp)
      (compiles : Regex.compile pattern = .ok value) :
      IsTextMatch (.binary op (.string raw pos) (.string pattern patternPos))

/-- Which string literals a pattern operator converts on its right. -/
theorem isStringLiteral_refineOperand_rhs_eq_false_iff (ctx : Context) {op : Operator}
    (hop : op.kind.isPattern = true) (other : Expr) (raw : String) (pos : Position) :
    isStringLiteral (ctx.refineOperand op .rhs other (.string raw pos)) = false ↔
      op.kind = .glob ∨ op.kind = .regexp ∧ ∃ value, Regex.compile raw = .ok value := by
  obtain ⟨leaf, events, heq, hstep⟩ := literalStep ctx op .rhs other raw pos
  rw [refineOperand_of_isStringLiteral ctx op .rhs other rfl, heq]
  cases hstep with
  | kept _ pattern => cases (pattern hop).1
  | toDate kind | notDate kind =>
    rw [mem_plainKinds_iff, hop] at kind
    cases kind.2
  | toGlob kind => exact iff_of_true rfl (.inl kind)
  | toRegex kind _ compiles => exact iff_of_true rfl (.inr ⟨kind, _, compiles⟩)
  | notRegex kind _ fails => simp [isStringLiteral, kind, fails]

/-- Text matches in terms of the operands: a pattern operator between string
literals of which the right one does not stay a string. -/
theorem isTextMatch_iff (ctx : Context) (op : Operator) (lhs rhs : Expr) :
    IsTextMatch (.binary op lhs rhs) ↔
      op.kind.isPattern = true ∧ isStringLiteral lhs = true ∧ isStringLiteral rhs = true ∧
        isStringLiteral (ctx.refineOperand op .rhs lhs rhs) = false := by
  have hconverted_iff := @isStringLiteral_refineOperand_rhs_eq_false_iff ctx op
  constructor
  · intro h
    rcases h with kind | ⟨kind, compiles⟩
    · have hpattern : op.kind.isPattern = true := by rw [kind]; rfl
      exact ⟨hpattern, rfl, rfl, (hconverted_iff hpattern _ _ _).2 (.inl kind)⟩
    · have hpattern : op.kind.isPattern = true := by rw [kind]; rfl
      exact ⟨hpattern, rfl, rfl, (hconverted_iff hpattern _ _ _).2 (.inr ⟨kind, _, compiles⟩)⟩
  · intro h
    obtain ⟨hpattern, hl, hr, hconverted⟩ := h
    obtain ⟨raw, pos, rfl⟩ := eq_string_of_isStringLiteral hl
    obtain ⟨pattern, patternPos, rfl⟩ := eq_string_of_isStringLiteral hr
    rcases (hconverted_iff hpattern _ _ _).1 hconverted with kind | ⟨kind, value, compiles⟩
    · exact .glob kind
    · exact .regexp kind compiles

/-- What a conversion looks at in the other operand: whether it is a date, and
on the left also whether it is a string literal. -/
theorem convertOperand_congr (ctx : Context) (op : Operator) (side : Side)
    {other other' : Expr} (htype : ctx.typeOf other' = ctx.typeOf other)
    (hstring : side = .lhs → op.kind.isPattern = true →
      isStringLiteral other' = isStringLiteral other) (e : Expr) :
    ctx.convertOperand op side other' e = ctx.convertOperand op side other e := by
  rw [convertOperand, convertOperand, htype]
  split_ifs with hpattern hside hside' hside' <;> simp_all

/-- Across from a string literal every operand keeps its type. -/
theorem typeOf_refineOperand_of_isStringLiteral (ctx : Context) (op : Operator) (side : Side)
    {other : Expr} (h : isStringLiteral other = true) (e : Expr) :
    ctx.typeOf (ctx.refineOperand op side other e) = ctx.typeOf e := by
  obtain ⟨raw, pos, rfl⟩ := eq_string_of_isStringLiteral h
  refine (typeOf_refineOperand ctx op side _ e).resolve_right fun hdate => ?_
  cases hdate.2.1

/-- The right operand of an operator is done with after one pass. -/
theorem convertOperand_rhs_again (ctx : Context) (op : Operator) (lhs rhs : Expr) :
    (ctx.convertOperand op .rhs (ctx.refineOperand op .lhs rhs lhs)
        (ctx.refineOperand op .rhs lhs rhs)).1 = ctx.refineOperand op .rhs lhs rhs ∧
      Event.problems (ctx.convertOperand op .rhs (ctx.refineOperand op .lhs rhs lhs)
          (ctx.refineOperand op .rhs lhs rhs)).2 =
        Event.problems (ctx.convertOperand op .rhs lhs rhs).2 := by
  apply convertOperand_again
  intro hstring
  obtain ⟨hr, _⟩ := refineOperand_eq_self ctx op .rhs lhs hstring
  apply convertOperand_congr
  · exact typeOf_refineOperand_of_isStringLiteral ctx op .lhs hr lhs
  · intro hside
    cases hside

/-- The left operand is done with too, unless the operator is a text match. -/
theorem convertOperand_lhs_again (ctx : Context) {op : Operator} {lhs rhs : Expr}
    (h : ¬IsTextMatch (.binary op lhs rhs)) :
    (ctx.convertOperand op .lhs (ctx.refineOperand op .rhs lhs rhs)
        (ctx.refineOperand op .lhs rhs lhs)).1 = ctx.refineOperand op .lhs rhs lhs ∧
      Event.problems (ctx.convertOperand op .lhs (ctx.refineOperand op .rhs lhs rhs)
          (ctx.refineOperand op .lhs rhs lhs)).2 =
        Event.problems (ctx.convertOperand op .lhs rhs lhs).2 := by
  apply convertOperand_again
  intro hstring
  obtain ⟨hl, _⟩ := refineOperand_eq_self ctx op .lhs rhs hstring
  apply convertOperand_congr
  · exact typeOf_refineOperand_of_isStringLiteral ctx op .rhs hl rhs
  · intro _ hpattern
    cases hr : isStringLiteral rhs with
    | false =>
      rw [refineOperand_of_not_isStringLiteral ctx op .rhs lhs hr, isStringLiteral_refine, hr]
    | true =>
      by_contra hconverted
      exact h ((isTextMatch_iff ctx op lhs rhs).2
        ⟨hpattern, hl, hr, Bool.of_not_eq_true hconverted⟩)

/-- A string literal that is taken for a pattern and left as it is has a
problem. -/
theorem problems_convertOperand_ne_nil {ctx : Context} {op : Operator} {side : Side}
    {other : Expr} {raw : String} {pos : Position} (hpattern : op.kind.isPattern = true)
    (hside : side = .rhs ∨ isStringLiteral other = false)
    (h : (ctx.convertOperand op side other (.string raw pos)).1 = .string raw pos) :
    Event.problems (ctx.convertOperand op side other (.string raw pos)).2 ≠ [] := by
  obtain ⟨leaf, events, heq, hstep⟩ := literalStep ctx op side other raw pos
  rw [heq] at h ⊢
  cases hstep with
  | kept _ pattern =>
    obtain ⟨rfl, hstring⟩ := pattern hpattern
    simp [hstring] at hside
  | notDate kind =>
    rw [mem_plainKinds_iff, hpattern] at kind
    cases kind.2
  | notRegex => exact List.cons_ne_nil _ _
  | toDate | toGlob | toRegex => cases h

/-- What the two passes do to the left operand of a text match.  The first one
leaves it alone; the second one converts it or reports that it cannot. -/
theorem convertOperand_lhs_of_isTextMatch (ctx : Context) {op : Operator} {lhs rhs : Expr}
    (h : IsTextMatch (.binary op lhs rhs)) :
    ctx.convertOperand op .lhs rhs lhs = (lhs, []) ∧
      ((ctx.convertOperand op .lhs (ctx.refineOperand op .rhs lhs rhs) lhs).1 = lhs →
        Event.problems
          (ctx.convertOperand op .lhs (ctx.refineOperand op .rhs lhs rhs) lhs).2 ≠ []) := by
  obtain ⟨hpattern, hl, hr, hconverted⟩ := (isTextMatch_iff ctx op lhs rhs).1 h
  constructor
  · simp [convertOperand, hpattern, hr]
  · obtain ⟨raw, pos, rfl⟩ := eq_string_of_isStringLiteral hl
    exact problems_convertOperand_ne_nil hpattern (.inr hconverted)

theorem ownProblems_again (ctx : Context) {op : Operator} {lhs rhs : Expr}
    (h : ¬IsTextMatch (.binary op lhs rhs)) :
    ctx.ownProblems (.binary op (ctx.refineOperand op .lhs rhs lhs)
        (ctx.refineOperand op .rhs lhs rhs)) =
      ctx.ownProblems (.binary op lhs rhs) := by
  rw [ownProblems_binary, ownProblems_binary, checkBinary_refineOperand,
    (convertOperand_lhs_again ctx h).2, (convertOperand_rhs_again ctx op lhs rhs).2]

/-- The problems of a text match after the first pass are the old ones and
those of its left operand. -/
theorem ownProblems_of_isTextMatch (ctx : Context) {op : Operator} {lhs rhs : Expr}
    (h : IsTextMatch (.binary op lhs rhs)) :
    ctx.refineOperand op .lhs rhs lhs = lhs ∧
      ctx.ownProblems (.binary op lhs (ctx.refineOperand op .rhs lhs rhs)) =
        Event.problems (checkBinary op (ctx.typeOf lhs) (ctx.typeOf rhs)) ++
          (Event.problems
              (ctx.convertOperand op .lhs (ctx.refineOperand op .rhs lhs rhs) lhs).2 ++
            Event.problems (ctx.convertOperand op .rhs lhs rhs).2) ∧
      ctx.ownProblems (.binary op lhs rhs) =
        Event.problems (checkBinary op (ctx.typeOf lhs) (ctx.typeOf rhs)) ++
          Event.problems (ctx.convertOperand op .rhs lhs rhs).2 := by
  obtain ⟨_, hl, _, _⟩ := (isTextMatch_iff ctx op lhs rhs).1 h
  obtain ⟨hfirst, _⟩ := convertOperand_lhs_of_isTextMatch ctx h
  have hkeep : ctx.refineOperand op .lhs rhs lhs = lhs := by
    rw [refineOperand_of_isStringLiteral ctx op .lhs rhs hl, hfirst]
  have hcheck := checkBinary_refineOperand ctx op lhs rhs
  have hright := (convertOperand_rhs_again ctx op lhs rhs).2
  rw [hkeep] at hcheck hright
  refine ⟨hkeep, ?_, ?_⟩
  · rw [ownProblems_binary, hcheck, hright]
  · rw [ownProblems_binary, hfirst]
    rfl

/-- The second pass reports every problem of an operator again. -/
theorem ownProblems_sublist_again (ctx : Context) (op : Operator) (lhs rhs : Expr) :
    (ctx.ownProblems (.binary op lhs rhs)).Sublist
      (ctx.ownProblems (.binary op (ctx.refineOperand op .lhs rhs lhs)
        (ctx.refineOperand op .rhs lhs rhs))) := by
  by_cases h : IsTextMatch (.binary op lhs rhs)
  · obtain ⟨hkeep, hsecond, hfirst⟩ := ownProblems_of_isTextMatch ctx h
    rw [hkeep, hsecond, hfirst]
    exact (List.Sublist.refl _).append (List.sublist_append_right _ _)
  · simp [ownProblems_again ctx h]

/-! ## Whole expressions -/

/-- No part of an expression is a text match. -/
def IsSettled (e : Expr) : Prop := ∀ node ∈ e.nodes, ¬IsTextMatch node

theorem isSettled_of_isLiteral {e : Expr} (h : isLiteral e = true) : IsSettled e := by
  intro node hnode
  cases e with
  | string | number | date | glob | regex =>
    obtain rfl := List.mem_singleton.1 hnode
    intro hmatch
    cases hmatch
  | _ => cases h

theorem isSettled_identifier (name : String) (pos : Position) :
    IsSettled (.identifier name pos) := by
  intro node hnode
  obtain rfl := List.mem_singleton.1 hnode
  intro hmatch
  cases hmatch

theorem isSettled_paren_iff (inner : Expr) : IsSettled (.paren inner) ↔ IsSettled inner := by
  rw [IsSettled, Expr.forall_mem_nodes_paren]
  apply and_iff_left
  intro hmatch
  cases hmatch

theorem isSettled_unary_iff (op : Operator) (operand : Expr) :
    IsSettled (.unary op operand) ↔ IsSettled operand := by
  rw [IsSettled, Expr.forall_mem_nodes_unary]
  apply and_iff_left
  intro hmatch
  cases hmatch

theorem isSettled_binary_iff (op : Operator) (lhs rhs : Expr) :
    IsSettled (.binary op lhs rhs) ↔
      IsSettled lhs ∧ IsSettled rhs ∧ ¬IsTextMatch (.binary op lhs rhs) :=
  Expr.forall_mem_nodes_binary

theorem isSettled_refineOperand {ctx : Context} {e : Expr}
    (h : IsSettled (ctx.refine e).expr) (op : Operator) (side : Side) (other : Expr) :
    IsSettled (ctx.refineOperand op side other e) := by
  rcases refineOperand_cases ctx op side other e with ⟨_, hliteral⟩ | ⟨_, heq⟩
  · exact isSettled_of_isLiteral hliteral
  · rw [heq]
    exact h

/-- Refinement leaves no text match behind: a right operand that is still a
string literal did not convert and does not convert now. -/
theorem isSettled_refine (ctx : Context) (e : Expr) : IsSettled (ctx.refine e).expr := by
  induction e with
  | paren inner ih => exact (isSettled_paren_iff _).2 ih
  | unary op operand ih => exact (isSettled_unary_iff op _).2 ih
  | binary op lhs rhs ihl ihr =>
    rw [refine_binary_expr, isSettled_binary_iff]
    refine ⟨isSettled_refineOperand ihl op .lhs rhs, isSettled_refineOperand ihr op .rhs lhs, ?_⟩
    intro h
    obtain ⟨_, _, hr, hconverted⟩ := (isTextMatch_iff ctx op _ _).1 h
    have hagain := (convertOperand_rhs_again ctx op lhs rhs).1
    rw [refineOperand_of_isStringLiteral ctx op .rhs _ hr, hagain, hr] at hconverted
    cases hconverted
  | identifier name pos => exact isSettled_identifier name pos
  | _ => exact isSettled_of_isLiteral rfl

/-- A second pass changes neither the refined expression nor its problems. -/
def IsFixed (ctx : Context) (e : Expr) : Prop :=
  (ctx.refine (ctx.refine e).expr).expr = (ctx.refine e).expr ∧
    ctx.problems (ctx.refine e).expr = ctx.problems e

theorem isFixed_of_isLiteral (ctx : Context) {e : Expr} (h : isLiteral e = true) :
    ctx.IsFixed e := by
  simp [IsFixed, refine_expr_of_isLiteral ctx h]

/-- An operand that a second pass leaves alone is left alone under its operator
too, conversions apart. -/
theorem IsFixed.refineOperand {ctx : Context} {e : Expr} (h : ctx.IsFixed e)
    (op : Operator) (side : Side) (other : Expr) :
    (ctx.refine (ctx.refineOperand op side other e)).expr = ctx.refineOperand op side other e ∧
      ctx.problems (ctx.refineOperand op side other e) = ctx.problems e := by
  rcases refineOperand_cases ctx op side other e with ⟨hstring, hliteral⟩ | ⟨_, heq⟩
  · obtain ⟨raw, pos, rfl⟩ := eq_string_of_isStringLiteral hstring
    rw [refine_expr_of_isLiteral ctx hliteral, problems_of_isLiteral ctx hliteral]
    exact ⟨rfl, rfl⟩
  · rw [heq]
    exact h

theorem ownProblems_paren_refine (ctx : Context) (inner : Expr) :
    ctx.ownProblems (.paren (ctx.refine inner).expr) = ctx.ownProblems (.paren inner) := by
  simp [ownProblems, ownEvents]

theorem ownProblems_unary_refine (ctx : Context) (op : Operator) (operand : Expr) :
    ctx.ownProblems (.unary op (ctx.refine operand).expr) =
      ctx.ownProblems (.unary op operand) := by
  simp [ownProblems, ownEvents]

theorem isFixed_paren_iff (ctx : Context) (inner : Expr) :
    ctx.IsFixed (.paren inner) ↔ ctx.IsFixed inner := by
  simp [IsFixed, refine, ownProblems_paren_refine]

theorem isFixed_unary_iff (ctx : Context) (op : Operator) (operand : Expr) :
    ctx.IsFixed (.unary op operand) ↔ ctx.IsFixed operand := by
  simp [IsFixed, refine, ownProblems_unary_refine]

/-- The step at an operator: if its operands are fixed and it is no text match,
it is fixed. -/
theorem IsFixed.binary {ctx : Context} {op : Operator} {lhs rhs : Expr}
    (hl : ctx.IsFixed lhs) (hr : ctx.IsFixed rhs) (hnode : ¬IsTextMatch (.binary op lhs rhs)) :
    ctx.IsFixed (.binary op lhs rhs) := by
  obtain ⟨hlexpr, hlproblems⟩ := hl.refineOperand op .lhs rhs
  obtain ⟨hrexpr, hrproblems⟩ := hr.refineOperand op .rhs lhs
  constructor
  · rw [refine_binary_expr ctx op lhs rhs, refine_binary_expr,
      refineOperand_of_refine_eq ctx op .lhs _ hlexpr, (convertOperand_lhs_again ctx hnode).1,
      refineOperand_of_refine_eq ctx op .rhs _ hrexpr, (convertOperand_rhs_again ctx op lhs rhs).1]
  · rw [refine_binary_expr, problems_binary, problems_binary, hlproblems, hrproblems,
      ownProblems_again ctx hnode]

theorem problems_sublist_refineOperand {ctx : Context} {e : Expr}
    (h : (ctx.problems e).Sublist (ctx.problems (ctx.refine e).expr))
    (op : Operator) (side : Side) (other : Expr) :
    (ctx.problems e).Sublist (ctx.problems (ctx.refineOperand op side other e)) := by
  rcases refineOperand_cases ctx op side other e with ⟨hstring, _⟩ | ⟨_, heq⟩
  · obtain ⟨raw, pos, rfl⟩ := eq_string_of_isStringLiteral hstring
    exact List.nil_sublist _
  · rw [heq]
    exact h

/-- The second pass reports every problem of the first one again, in the same
order, on every expression. -/
theorem problems_sublist_refine (ctx : Context) (e : Expr) :
    (ctx.problems e).Sublist (ctx.problems (ctx.refine e).expr) := by
  induction e with
  | paren inner ih =>
    rw [problems_paren, refine, problems_paren, ownProblems_paren_refine]
    exact ih.append (List.Sublist.refl _)
  | unary op operand ih =>
    rw [problems_unary, refine, problems_unary, ownProblems_unary_refine]
    exact ih.append (List.Sublist.refl _)
  | binary op lhs rhs ihl ihr =>
    rw [refine_binary_expr, problems_binary, problems_binary]
    exact ((problems_sublist_refineOperand ihl op .lhs rhs).append
      (problems_sublist_refineOperand ihr op .rhs lhs)).append
        (ownProblems_sublist_again ctx op lhs rhs)
  | _ => exact List.Sublist.refl _

/-- Two lists that grew apart and are equal when joined did not grow. -/
theorem eq_of_sublist_append {α : Type} {first first' second second' : List α}
    (h : first.Sublist first') (h' : second.Sublist second')
    (heq : first' ++ second' = first ++ second) : first' = first ∧ second' = second := by
  have hlength := congrArg List.length heq
  simp only [List.length_append] at hlength
  have hle := h.length_le
  have hle' := h'.length_le
  exact ⟨(h.eq_of_length (by omega)).symm, (h'.eq_of_length (by omega)).symm⟩

theorem isFixed_of_refineOperand {ctx : Context} {op : Operator} {side : Side}
    {other other' e : Expr}
    (hexpr : ctx.refineOperand op side other' (ctx.refineOperand op side other e) =
      ctx.refineOperand op side other e)
    (hproblems : ctx.problems (ctx.refineOperand op side other e) = ctx.problems e) :
    ctx.IsFixed e := by
  cases hstring : isStringLiteral e with
  | true =>
    obtain ⟨raw, pos, rfl⟩ := eq_string_of_isStringLiteral hstring
    exact isFixed_of_isLiteral ctx rfl
  | false =>
    have hstring' : isStringLiteral (ctx.refine e).expr = false := by simp [hstring]
    rw [refineOperand_of_not_isStringLiteral ctx op side other hstring] at hexpr hproblems
    rw [refineOperand_of_not_isStringLiteral ctx op side other' hstring'] at hexpr
    exact ⟨hexpr, hproblems⟩

/-- A text match is never fixed: its left operand changes or is reported. -/
theorem not_isTextMatch_of_again {ctx : Context} {op : Operator} {lhs rhs : Expr}
    (hexpr : ctx.refineOperand op .lhs (ctx.refineOperand op .rhs lhs rhs)
      (ctx.refineOperand op .lhs rhs lhs) = ctx.refineOperand op .lhs rhs lhs)
    (hown : ctx.ownProblems (.binary op (ctx.refineOperand op .lhs rhs lhs)
      (ctx.refineOperand op .rhs lhs rhs)) = ctx.ownProblems (.binary op lhs rhs)) :
    ¬IsTextMatch (.binary op lhs rhs) := by
  intro h
  obtain ⟨_, hl, _, _⟩ := (isTextMatch_iff ctx op lhs rhs).1 h
  obtain ⟨hkeep, hsecond, hfirst⟩ := ownProblems_of_isTextMatch ctx h
  rw [hkeep, refineOperand_of_isStringLiteral ctx op .lhs _ hl] at hexpr
  rw [hkeep, hsecond, hfirst] at hown
  have hnil := List.append_cancel_left hown
  rw [List.append_left_eq_self] at hnil
  exact (convertOperand_lhs_of_isTextMatch ctx h).2 hexpr hnil

theorem isFixed_binary_iff (ctx : Context) (op : Operator) (lhs rhs : Expr) :
    ctx.IsFixed (.binary op lhs rhs) ↔
      ctx.IsFixed lhs ∧ ctx.IsFixed rhs ∧ ¬IsTextMatch (.binary op lhs rhs) := by
  constructor
  · intro h
    obtain ⟨hexpr, hproblems⟩ := h
    rw [refine_binary_expr ctx op lhs rhs, refine_binary_expr] at hexpr
    rw [refine_binary_expr, problems_binary, problems_binary] at hproblems
    obtain ⟨-, hlexpr, hrexpr⟩ := Expr.binary.inj hexpr
    have hlsub := problems_sublist_refineOperand (problems_sublist_refine ctx lhs) op .lhs rhs
    have hrsub := problems_sublist_refineOperand (problems_sublist_refine ctx rhs) op .rhs lhs
    have hownsub := ownProblems_sublist_again ctx op lhs rhs
    obtain ⟨hparts, hown⟩ := eq_of_sublist_append (hlsub.append hrsub) hownsub hproblems
    obtain ⟨hlproblems, hrproblems⟩ := eq_of_sublist_append hlsub hrsub hparts
    exact ⟨isFixed_of_refineOperand hlexpr hlproblems, isFixed_of_refineOperand hrexpr hrproblems,
      not_isTextMatch_of_again hlexpr hown⟩
  · intro h
    obtain ⟨hl, hr, hnode⟩ := h
    exact hl.binary hr hnode

/-- A second pass changes nothing exactly if there is no text match. -/
theorem isFixed_iff_isSettled (ctx : Context) (e : Expr) : ctx.IsFixed e ↔ IsSettled e := by
  induction e with
  | paren inner ih => rw [isFixed_paren_iff, isSettled_paren_iff, ih]
  | unary op operand ih => rw [isFixed_unary_iff, isSettled_unary_iff, ih]
  | binary op lhs rhs ihl ihr => rw [isFixed_binary_iff, isSettled_binary_iff, ihl, ihr]
  | identifier name pos => exact iff_of_true ⟨rfl, rfl⟩ (isSettled_identifier name pos)
  | _ => exact iff_of_true (isFixed_of_isLiteral ctx rfl) (isSettled_of_isLiteral rfl)

/-! ## Queries -/

/-- When a query and its problems come out of a second pass as they came out of
the first one. -/
theorem process_again_iff (ctx : Context) (query : Expr) :
    (ctx.process (ctx.process query).expr).expr = (ctx.process query).expr ∧
        (ctx.process (ctx.process query).expr).problems = (ctx.process query).problems ↔
      query.isLogical = false ∨ IsSettled query := by
  cases hlogical : query.isLogical with
  | true =>
    have hrefined : (ctx.refine query).expr.isLogical = true := by simp [hlogical]
    rw [(process_of_isLogical ctx hlogical).1, (process_of_isLogical ctx hlogical).2,
      (process_of_isLogical ctx hrefined).1, (process_of_isLogical ctx hrefined).2]
    simp only [Bool.true_eq_false, false_or]
    exact isFixed_iff_isSettled ctx query
  | false =>
    have hexpr := (process_of_not_isLogical ctx hlogical).1
    rw [hexpr, hexpr]
    simp

theorem isSettled_process (ctx : Context) (query : Expr) :
    (ctx.process query).expr.isLogical = false ∨ IsSettled (ctx.process query).expr := by
  cases hlogical : query.isLogical with
  | true =>
    rw [(process_of_isLogical ctx hlogical).1]
    exact .inr (isSettled_refine ctx query)
  | false =>
    rw [(process_of_not_isLogical ctx hlogical).1]
    exact .inl hlogical

/-- Repeated processing.  The second pass changes nothing exactly if the query
has no logical form or no text match in it, and the third pass never changes
anything. -/
theorem process_repeatedly (ctx : Context) (query : Expr) :
    let first := ctx.process query
    let second := ctx.process first.expr
    let third := ctx.process second.expr
    (second.expr = first.expr ∧ second.problems = first.problems ↔
        query.isLogical = false ∨ ¬∃ node ∈ query.nodes, IsTextMatch node) ∧
      third.expr = second.expr ∧ third.problems = second.problems := by
  intro first second third
  refine ⟨?_, (process_again_iff ctx first.expr).2 (isSettled_process ctx query)⟩
  rw [process_again_iff ctx query, IsSettled]
  simp only [not_exists, not_and]

/-- A pattern comparison of two string literals. -/
inductive IsTextPair : Expr → Prop where
  | mk {op raw pos pattern patternPos} (kind : op.kind = .glob ∨ op.kind = .regexp) :
      IsTextPair (.binary op (.string raw pos) (.string pattern patternPos))

theorem IsTextMatch.isTextPair {e : Expr} (h : IsTextMatch e) : IsTextPair e := by
  rcases h with kind | ⟨kind, _⟩
  · exact .mk (.inl kind)
  · exact .mk (.inr kind)

/-- Where an operator has no problem, the right operand of a text pair is
converted. -/
theorem IsTextPair.isTextMatch {ctx : Context} {e : Expr} (h : IsTextPair e)
    (hown : ctx.ownProblems e = []) : IsTextMatch e := by
  obtain @⟨op, raw, pos, pattern, patternPos, kind⟩ := h
  have hpattern : op.kind.isPattern = true := by
    rcases kind with kind | kind <;> rw [kind] <;> rfl
  rw [ownProblems_binary, List.append_eq_nil_iff, List.append_eq_nil_iff] at hown
  refine (isTextMatch_iff ctx op _ _).2 ⟨hpattern, rfl, rfl, ?_⟩
  by_contra hstring
  obtain ⟨_, hself⟩ := refineOperand_eq_self ctx op .rhs _ (Bool.of_not_eq_false hstring)
  rw [refineOperand_of_isStringLiteral ctx op .rhs _ rfl] at hself
  exact problems_convertOperand_ne_nil hpattern (.inl rfl) hself hown.2.2

theorem isSettled_iff_of_problems_eq_nil (ctx : Context) {e : Expr} (h : ctx.problems e = []) :
    IsSettled e ↔ ¬∃ node ∈ e.nodes, IsTextPair node := by
  rw [problems_eq_flatMap, List.flatMap_eq_nil_iff] at h
  constructor
  · intro hsettled hexists
    obtain ⟨node, hnode, hpair⟩ := hexists
    exact hsettled node hnode (hpair.isTextMatch (h node hnode))
  · intro hnone node hnode hmatch
    exact hnone ⟨node, hnode, hmatch.isTextPair⟩

/-- Processing a valid query again.  It stays valid and comes out as the same
expression exactly if it compares no two string literals by a pattern. -/
theorem process_valid_again (ctx : Context) (query : Expr)
    (h : (ctx.process query).isValid = true) :
    (ctx.process (ctx.process query).expr).isValid = true ∧
        (ctx.process (ctx.process query).expr).expr = (ctx.process query).expr ↔
      ¬∃ node ∈ query.nodes, IsTextPair node := by
  rw [Outcome.isValid, List.isEmpty_iff] at h ⊢
  have hlogical : query.isLogical = true := by
    by_contra hlogical
    rw [(process_of_not_isLogical ctx (Bool.of_not_eq_true hlogical)).2] at h
    cases h
  have hagain := process_again_iff ctx query
  rw [h, hlogical] at hagain
  simp only [Bool.true_eq_false, false_or] at hagain
  rw [and_comm, hagain]
  rw [(process_of_isLogical ctx hlogical).2] at h
  exact isSettled_iff_of_problems_eq_nil ctx h

/-- The theorem at a query that compares a field with a pattern. -/
theorem process_valid_again_field :
    let ctx : Context :=
      { schema := (FieldTable.ofList [("Summary", .string)]).schema
        zone := ZoneTable.zone ⟨0, []⟩ }
    let query :=
      Expr.join .regexp ⟨1, 9⟩ (.identifier "Summary" ⟨1, 1⟩) (.string "a+" ⟨1, 16⟩)
    (ctx.process query).isValid = true ∧
      (ctx.process (ctx.process query).expr).isValid = true ∧
        (ctx.process (ctx.process query).expr).expr = (ctx.process query).expr := by
  intro ctx query
  have hvalid : (ctx.process query).isValid = true := by decide +kernel
  refine ⟨hvalid, (process_valid_again ctx query hvalid).2 ?_⟩
  intro hexists
  obtain ⟨node, hnode, hpair⟩ := hexists
  cases hpair
  simp [query, Expr.join, Expr.nodes] at hnode

/-- A valid query that is not valid any more when it is processed again: the
right operand of `"(" REGEXP "b"` is the pattern at first and the left one
after that. -/
theorem process_valid_again_text_pair :
    let ctx : Context := { schema := FieldTable.empty.schema, zone := ZoneTable.zone ⟨0, []⟩ }
    let query := Expr.join .regexp ⟨1, 5⟩ (.string "(" ⟨1, 1⟩) (.string "b" ⟨1, 12⟩)
    (ctx.process query).isValid = true ∧
      ¬((ctx.process (ctx.process query).expr).isValid = true ∧
        (ctx.process (ctx.process query).expr).expr = (ctx.process query).expr) := by
  decide +kernel

end Context

end FilterQuery
