import FilterQuery.Proofs.Fixpoint
import FilterQuery.Proofs.Grammar

/-!
# Logical expressions in their surroundings

A logical expression is refined in the same way wherever it stands in a
query, and the rest of the query is refined in the same way whichever logical
expression stands there.  `Surrounding` is a query with a place left open.
`Context.refineAround`, `Context.problemsBefore` and `Context.problemsAfter`
are what becomes of it by itself, and `refine_fill` and `problems_fill` put
the two halves together.

The reason is that operators look at an operand from outside only: a check
sees its type, and a conversion across from it also whether it is a string
literal.  All logical expressions are alike in both respects
(`convertOperand_of_isLogical`, `ownProblems_left_of_isLogical`), so a fixed
one can stand for all of them.
-/

namespace FilterQuery

/-! ## Surroundings -/

/-- A query with a place left open for one part of it. -/
inductive Surrounding where
  | hole
  | paren (inner : Surrounding)
  | unary (op : Operator) (operand : Surrounding)
  /-- The place is in the left operand. -/
  | left (op : Operator) (lhs : Surrounding) (rhs : Expr)
  /-- The place is in the right operand. -/
  | right (op : Operator) (lhs : Expr) (rhs : Surrounding)

namespace Surrounding

/-- The query with an expression at the open place. -/
def fill (e : Expr) : Surrounding → Expr
  | hole => e
  | paren inner => .paren (inner.fill e)
  | unary op operand => .unary op (operand.fill e)
  | left op lhs rhs => .binary op (lhs.fill e) rhs
  | right op lhs rhs => .binary op lhs (rhs.fill e)

theorem isLogical_fill (s : Surrounding) {e : Expr} (h : e.isLogical = true) :
    (s.fill e).isLogical = true := by
  cases s with
  | hole => exact h
  | _ => rfl

end Surrounding

namespace Context

/-! ## Logical operands -/

/-- A logical expression that stands for any other one where only its being
logical matters. -/
def someTruth : Expr := .paren (.string "" .start)

/-- Across from a logical expression it does not matter which one it is. -/
theorem convertOperand_of_isLogical (ctx : Context) (op : Operator) (side : Side)
    {other : Expr} (h : other.isLogical = true) (e : Expr) :
    ctx.convertOperand op side other e = ctx.convertOperand op side someTruth e := by
  apply convertOperand_congr
  · rw [typeOf_of_isLogical ctx h]
    rfl
  · intro _ _
    rw [isStringLiteral_of_isLogical h]
    rfl

theorem refineOperand_of_isLogical (ctx : Context) (op : Operator) (side : Side)
    {other : Expr} (h : other.isLogical = true) (e : Expr) :
    ctx.refineOperand op side other e = ctx.refineOperand op side someTruth e := by
  rw [refineOperand, convertOperand_of_isLogical ctx op side h, ← refineOperand]

/-- Nothing happens to a logical operand. -/
theorem convertOperand_events_of_isLogical (ctx : Context) (op : Operator) (side : Side)
    (other : Expr) {e : Expr} (h : e.isLogical = true) :
    (ctx.convertOperand op side other e).2 = [] := by
  rw [convertOperand_of_not_isStringLiteral ctx op side other (isStringLiteral_of_isLogical h)]

theorem isLogical_someTruth : someTruth.isLogical = true := rfl

/-- An operator has the same problems with any logical expression on its
left. -/
theorem ownProblems_left_of_isLogical (ctx : Context) (op : Operator) {lhs : Expr}
    (h : lhs.isLogical = true) (rhs : Expr) :
    ctx.ownProblems (.binary op lhs rhs) = ctx.ownProblems (.binary op someTruth rhs) := by
  rw [ownProblems_binary, ownProblems_binary, typeOf_of_isLogical ctx h,
    typeOf_of_isLogical ctx isLogical_someTruth, convertOperand_of_isLogical ctx op .rhs h,
    convertOperand_events_of_isLogical ctx op .lhs rhs h,
    convertOperand_events_of_isLogical ctx op .lhs rhs isLogical_someTruth]

/-- The same on its right. -/
theorem ownProblems_right_of_isLogical (ctx : Context) (op : Operator) (lhs : Expr) {rhs : Expr}
    (h : rhs.isLogical = true) :
    ctx.ownProblems (.binary op lhs rhs) = ctx.ownProblems (.binary op lhs someTruth) := by
  rw [ownProblems_binary, ownProblems_binary, typeOf_of_isLogical ctx h,
    typeOf_of_isLogical ctx isLogical_someTruth, convertOperand_of_isLogical ctx op .lhs h,
    convertOperand_events_of_isLogical ctx op .rhs lhs h,
    convertOperand_events_of_isLogical ctx op .rhs lhs isLogical_someTruth]

theorem ownProblems_unary_of_isLogical (ctx : Context) (op : Operator) {operand : Expr}
    (h : operand.isLogical = true) :
    ctx.ownProblems (.unary op operand) = ctx.ownProblems (.unary op someTruth) := by
  rw [ownProblems, ownEvents, typeOf_of_isLogical ctx h]
  rfl

theorem ownProblems_paren_of_isLogical (ctx : Context) {inner : Expr}
    (h : inner.isLogical = true) : ctx.ownProblems (.paren inner) = [] :=
  (ownProblems_paren_eq_nil_iff ctx inner).2 (typeOf_of_isLogical ctx h)

/-! ## Refinement around an open place -/

/-- What becomes of a surrounding. -/
def refineAround (ctx : Context) : Surrounding → Surrounding
  | .hole => .hole
  | .paren inner => .paren (ctx.refineAround inner)
  | .unary op operand => .unary op (ctx.refineAround operand)
  | .left op lhs rhs =>
    .left op (ctx.refineAround lhs) (ctx.refineOperand op .rhs someTruth rhs)
  | .right op lhs rhs =>
    .right op (ctx.refineOperand op .lhs someTruth lhs) (ctx.refineAround rhs)

/-- The problems found before the open place is reached. -/
def problemsBefore (ctx : Context) : Surrounding → List Problem
  | .hole => []
  | .paren inner => ctx.problemsBefore inner
  | .unary _ operand => ctx.problemsBefore operand
  | .left _ lhs _ => ctx.problemsBefore lhs
  | .right _ lhs rhs => ctx.problems lhs ++ ctx.problemsBefore rhs

/-- The problems found after the open place is left. -/
def problemsAfter (ctx : Context) : Surrounding → List Problem
  | .hole => []
  | .paren inner => ctx.problemsAfter inner
  | .unary op operand => ctx.problemsAfter operand ++ ctx.ownProblems (.unary op someTruth)
  | .left op lhs rhs =>
    ctx.problemsAfter lhs ++ (ctx.problems rhs ++ ctx.ownProblems (.binary op someTruth rhs))
  | .right op lhs rhs => ctx.problemsAfter rhs ++ ctx.ownProblems (.binary op lhs someTruth)

theorem refine_fill (ctx : Context) (s : Surrounding) {e : Expr} (h : e.isLogical = true) :
    (ctx.refine (s.fill e)).expr = (ctx.refineAround s).fill (ctx.refine e).expr := by
  induction s with
  | hole => rfl
  | paren inner ih => exact congrArg Expr.paren ih
  | unary op operand ih => exact congrArg (Expr.unary op) ih
  | left op lhs rhs ih =>
    have hlhs := lhs.isLogical_fill h
    rw [Surrounding.fill, refine_binary_expr, refineOperand_of_isLogical ctx op .rhs hlhs,
      refineOperand_of_not_isStringLiteral ctx op .lhs rhs (isStringLiteral_of_isLogical hlhs), ih]
    rfl
  | right op lhs rhs ih =>
    have hrhs := rhs.isLogical_fill h
    rw [Surrounding.fill, refine_binary_expr, refineOperand_of_isLogical ctx op .lhs hrhs,
      refineOperand_of_not_isStringLiteral ctx op .rhs lhs (isStringLiteral_of_isLogical hrhs), ih]
    rfl

theorem problems_fill (ctx : Context) (s : Surrounding) {e : Expr} (h : e.isLogical = true) :
    ctx.problems (s.fill e) = ctx.problemsBefore s ++ ctx.problems e ++ ctx.problemsAfter s := by
  induction s with
  | hole => simp [Surrounding.fill, problemsBefore, problemsAfter]
  | paren inner ih =>
    rw [Surrounding.fill, problems_paren, ih,
      ownProblems_paren_of_isLogical ctx (inner.isLogical_fill h)]
    simp [problemsBefore, problemsAfter]
  | unary op operand ih =>
    rw [Surrounding.fill, problems_unary, ih,
      ownProblems_unary_of_isLogical ctx op (operand.isLogical_fill h)]
    simp [problemsBefore, problemsAfter]
  | left op lhs rhs ih =>
    rw [Surrounding.fill, problems_binary, ih,
      ownProblems_left_of_isLogical ctx op (lhs.isLogical_fill h)]
    simp [problemsBefore, problemsAfter]
  | right op lhs rhs ih =>
    rw [Surrounding.fill, problems_binary, ih,
      ownProblems_right_of_isLogical ctx op lhs (rhs.isLogical_fill h)]
    simp [problemsBefore, problemsAfter]

theorem problems_paren_of_isLogical (ctx : Context) {inner : Expr}
    (h : inner.isLogical = true) : ctx.problems (.paren inner) = ctx.problems inner := by
  rw [problems_paren, ownProblems_paren_of_isLogical ctx h, List.append_nil]

theorem problems_negation_of_isLogical (ctx : Context) {op : Operator} {operand : Expr}
    (hop : op.kind = .not) (h : operand.isLogical = true) :
    ctx.problems (.unary op operand) = ctx.problems operand := by
  have hown := (ownProblems_unary_eq_nil_iff ctx op operand).2 ⟨hop, typeOf_of_isLogical ctx h⟩
  rw [problems_unary, hown, List.append_nil]

/-- A connective leaves logical operands as they are by themselves. -/
theorem refine_connective_of_isLogical (ctx : Context) {op : Operator} {lhs rhs : Expr}
    (hop : op.kind = .and ∨ op.kind = .or) (hl : lhs.isLogical = true)
    (hr : rhs.isLogical = true) :
    (ctx.refine (.binary op lhs rhs)).expr =
        .binary op (ctx.refine lhs).expr (ctx.refine rhs).expr ∧
      ctx.problems (.binary op lhs rhs) = ctx.problems lhs ++ ctx.problems rhs := by
  have hlogical : op.kind.isLogical = true := by
    rcases hop with hop | hop <;> rw [hop] <;> rfl
  have hown := (ownProblems_connective_eq_nil_iff ctx lhs rhs hlogical).2
    ⟨typeOf_of_isLogical ctx hl, typeOf_of_isLogical ctx hr⟩
  constructor
  · rw [refine_binary_expr,
      refineOperand_of_not_isStringLiteral ctx op .lhs rhs (isStringLiteral_of_isLogical hl),
      refineOperand_of_not_isStringLiteral ctx op .rhs lhs (isStringLiteral_of_isLogical hr)]
  · rw [problems_binary, hown, List.append_nil]

/-! ## Queries -/

/-- Logical expressions and their surroundings do not depend on each other.
What becomes of a surrounding is the same around every logical expression,
and parentheses around that expression make no further difference.  Wrapping
a query in parentheses, a negation or a connective wraps what becomes of
it. -/
theorem process_fill (ctx : Context) :
    (∀ s : Surrounding, ∃ (s' : Surrounding) (before after : List Problem),
      ∀ e : Expr, e.isLogical = true →
        ((ctx.process (s.fill e)).expr = s'.fill (ctx.process e).expr ∧
          (ctx.process (s.fill e)).problems = before ++ (ctx.process e).problems ++ after) ∧
        (ctx.process (s.fill (.paren e))).expr = s'.fill (.paren (ctx.process e).expr) ∧
          (ctx.process (s.fill (.paren e))).problems = (ctx.process (s.fill e)).problems) ∧
    ∀ e : Expr, e.isLogical = true →
      ((ctx.process (.paren e)).expr = .paren (ctx.process e).expr ∧
        (ctx.process (.paren e)).problems = (ctx.process e).problems) ∧
      (∀ op : Operator, op.kind = .not →
        (ctx.process (.unary op e)).expr = .unary op (ctx.process e).expr ∧
        (ctx.process (.unary op e)).problems = (ctx.process e).problems) ∧
      ∀ (op : Operator) (e' : Expr), op.kind = .and ∨ op.kind = .or → e'.isLogical = true →
        (ctx.process (.binary op e e')).expr =
          .binary op (ctx.process e).expr (ctx.process e').expr ∧
        (ctx.process (.binary op e e')).problems =
          (ctx.process e).problems ++ (ctx.process e').problems := by
  constructor
  · intro s
    refine ⟨ctx.refineAround s, ctx.problemsBefore s, ctx.problemsAfter s, fun e h => ?_⟩
    have hparen : (Expr.paren e).isLogical = true := rfl
    obtain ⟨hexpr, hproblems⟩ := process_of_isLogical ctx h
    obtain ⟨hfill, hfillProblems⟩ := process_of_isLogical ctx (s.isLogical_fill h)
    obtain ⟨hwrapped, hwrappedProblems⟩ := process_of_isLogical ctx (s.isLogical_fill hparen)
    rw [hexpr, hproblems, hfill, hfillProblems, hwrapped, hwrappedProblems, refine_fill ctx s h,
      refine_fill ctx s hparen, problems_fill ctx s h, problems_fill ctx s hparen,
      problems_paren_of_isLogical ctx h]
    exact ⟨⟨rfl, rfl⟩, rfl, rfl⟩
  · intro e h
    obtain ⟨hexpr, hproblems⟩ := process_of_isLogical ctx h
    rw [hexpr, hproblems]
    refine ⟨⟨rfl, problems_paren_of_isLogical ctx h⟩,
      fun op hop => ⟨rfl, problems_negation_of_isLogical ctx hop h⟩, fun op e' hop h' => ?_⟩
    obtain ⟨hexpr', hproblems'⟩ := process_of_isLogical ctx h'
    rw [hexpr', hproblems']
    exact refine_connective_of_isLogical ctx hop h h'

/-- The theorem at `Nope AND "a*" GLOB □`: the comparison takes its left operand
for the pattern whatever is put on its right. -/
theorem process_fill_of_glob :
    let ctx : Context :=
      { schema := (FieldTable.ofList [("Created", .date)]).schema
        zone := ZoneTable.zone ⟨0, []⟩ }
    let s := Surrounding.right (.standard .and ⟨1, 6⟩) (.identifier "Nope" ⟨1, 1⟩)
      (.right (.standard .glob ⟨1, 15⟩) (.string "a*" ⟨1, 10⟩) .hole)
    let e := Expr.join .lt ⟨1, 29⟩ (.identifier "Created" ⟨1, 21⟩) (.string "soon" ⟨1, 31⟩)
    e.isLogical = true ∧
      (ctx.process (s.fill e)).problems =
        [.unknownField ⟨1, 1⟩ "Nope",
          .invalidDate ⟨1, 31⟩ "soon" "YYYY-MM-DD" "YYYY-MM-DD HH:MM:SS",
          .comparisonOfBoolean ⟨1, 15⟩, .connectiveNotBoolean ⟨1, 6⟩] ∧
      (ctx.process (s.fill (.paren e))).problems = (ctx.process (s.fill e)).problems ∧
      ∃ s' : Surrounding,
        (ctx.process (s.fill e)).expr = s'.fill (ctx.process e).expr ∧
        (ctx.process (s.fill (.paren e))).expr = s'.fill (.paren (ctx.process e).expr) := by
  intro ctx s e
  obtain ⟨s', before, after, hfill⟩ := (process_fill ctx).1 s
  obtain ⟨⟨hexpr, -⟩, hwrapped, hproblems⟩ := hfill e rfl
  exact ⟨rfl, by decide +kernel, hproblems, s', hexpr, hwrapped⟩

end Context

end FilterQuery
