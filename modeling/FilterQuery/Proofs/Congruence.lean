import FilterQuery.Expr.Equality
import FilterQuery.Proofs.Fixpoint

/-!
# Equal queries

Queries that are equal as a caller sees it need not be identical: a zero may
have either sign, and a date may carry another offset.  Refinement does not see
the difference.  Equal queries have the same problems, and they are refined to
equal queries.

There are three groups.

* Equality as a relation.  `Expr.Equals` has a rule for each form of expression,
  so that a proof about equal expressions is an induction over these rules, and
  `isEqual_iff_equals` ties it to the function.
* One node.  All that the rules of refinement look at is the same in equal
  expressions: their types, their positions, and every string literal.  So a node
  adds the same events (`Equals.ownEvents_eq`), and its operands are converted to
  equal ones (`Equals.refineOperand`).
* Queries.  `Equals.refine` and `Equals.problems_eq` are the inductions, and
  `process_of_isEqual` is what they come to.
-/

namespace FilterQuery

namespace Expr

/-! ## Equality as a relation -/

/-- Equality of expressions: the same form and equal parts, where numbers are
compared as numbers, dates by their instants and regular expressions by their
sources. -/
inductive Equals : Expr → Expr → Prop where
  | identifier {name pos} : Equals (.identifier name pos) (.identifier name pos)
  | string {raw pos} : Equals (.string raw pos) (.string raw pos)
  | number {x y pos} (value : x.isEqual y = true) : Equals (.number x pos) (.number y pos)
  | date {s t pos} (instant : s.instant = t.instant) : Equals (.date s pos) (.date t pos)
  | glob {pattern pos} : Equals (.glob pattern pos) (.glob pattern pos)
  | regex {r s pos} (source : r.source = s.source) : Equals (.regex r pos) (.regex s pos)
  | unary {op a b} (operand : Equals a b) : Equals (.unary op a) (.unary op b)
  | binary {op a b c d} (left : Equals a c) (right : Equals b d) :
      Equals (.binary op a b) (.binary op c d)
  | paren {a b} (inner : Equals a b) : Equals (.paren a) (.paren b)

theorem Equals.of_isEqual {a b : Expr} (h : a.isEqual b = true) : Equals a b := by
  fun_induction isEqual a b with
  | case1 a p b q | case2 a p b q | case5 a p b q =>
    obtain ⟨rfl, rfl⟩ := of_decide_eq_true h
    constructor
  | case3 x p y q =>
    rw [Bool.and_eq_true, decide_eq_true_eq] at h
    obtain ⟨hvalue, rfl⟩ := h
    exact .number hvalue
  | case4 s p t q =>
    rw [Bool.and_eq_true, decide_eq_true_eq] at h
    obtain ⟨hinstant, rfl⟩ := h
    exact .date (of_decide_eq_true hinstant)
  | case6 r p s q =>
    obtain ⟨hsource, rfl⟩ := of_decide_eq_true h
    exact .regex hsource
  | case7 f a g b ih =>
    rw [Bool.and_eq_true, decide_eq_true_eq] at h
    obtain ⟨rfl, hoperand⟩ := h
    exact .unary (ih hoperand)
  | case8 f a b g c d ihl ihr =>
    rw [Bool.and_eq_true, Bool.and_eq_true, decide_eq_true_eq] at h
    obtain ⟨⟨rfl, hleft⟩, hright⟩ := h
    exact .binary (ihl hleft) (ihr hright)
  | case9 a b ih => exact .paren (ih h)
  | case10 => cases h

theorem isEqual_iff_equals {a b : Expr} : a.isEqual b = true ↔ Equals a b := by
  constructor
  · exact Equals.of_isEqual
  · intro h
    induction h with
    | number value => simp [isEqual, value]
    | date instant => simp [isEqual, ZonedTime.isEqual, instant]
    | regex source => simp [isEqual, source]
    | unary _ ih => simp [isEqual, ih]
    | binary _ _ ihl ihr => simp [isEqual, ihl, ihr]
    | paren _ ih => exact ih
    | _ => simp [isEqual]

/-! ## One node -/

namespace Equals

theorem isLogical_eq {a b : Expr} (h : Equals a b) : b.isLogical = a.isLogical := by
  cases h <;> rfl

theorem formName_eq {a b : Expr} (h : Equals a b) : b.formName = a.formName := by
  cases h <;> rfl

theorem pos_eq {a b : Expr} (h : Equals a b) : b.pos = a.pos := by
  induction h with
  | binary _ _ ihl _ => exact ihl
  | paren _ ih => exact ih
  | _ => rfl

theorem isStringLiteral_eq {a b : Expr} (h : Equals a b) :
    Context.isStringLiteral b = Context.isStringLiteral a := by
  cases h <;> rfl

/-- Equal string literals are identical. -/
theorem eq_of_isStringLiteral {a b : Expr} (h : Equals a b)
    (hstring : Context.isStringLiteral a = true) : b = a := by
  cases h with
  | string => rfl
  | _ => cases hstring

theorem typeOf_eq {a b : Expr} (h : Equals a b) (ctx : Context) :
    ctx.typeOf b = ctx.typeOf a := by
  cases h <;> rfl

variable {other other' : Expr}

/-- Across from equal operands an operand is converted in the same way. -/
theorem convertOperand_eq (hother : Equals other other') (ctx : Context) (op : Operator)
    (side : Side) (e : Expr) :
    ctx.convertOperand op side other' e = ctx.convertOperand op side other e :=
  Context.convertOperand_congr ctx op side (hother.typeOf_eq ctx)
    (fun _ _ => hother.isStringLiteral_eq) e

theorem convertOperand_events_eq {a b : Expr} (h : Equals a b) (hother : Equals other other')
    (ctx : Context) (op : Operator) (side : Side) :
    (ctx.convertOperand op side other' b).2 = (ctx.convertOperand op side other a).2 := by
  rw [hother.convertOperand_eq]
  cases hstring : Context.isStringLiteral a with
  | true => rw [h.eq_of_isStringLiteral hstring]
  | false =>
    have hstring' := h.isStringLiteral_eq.trans hstring
    rw [ctx.convertOperand_of_not_isStringLiteral op side other hstring,
      ctx.convertOperand_of_not_isStringLiteral op side other hstring']

/-- The nodes of equal expressions add the same events. -/
theorem ownEvents_eq {a b : Expr} (h : Equals a b) (ctx : Context) :
    ctx.ownEvents b = ctx.ownEvents a := by
  cases h with
  | unary operand => rw [Context.ownEvents, Context.ownEvents, operand.typeOf_eq]
  | binary left right =>
    rw [Context.ownEvents, Context.ownEvents, left.typeOf_eq, right.typeOf_eq,
      left.convertOperand_events_eq right, right.convertOperand_events_eq left]
  | paren inner => rw [Context.ownEvents, Context.ownEvents, inner.typeOf_eq, inner.pos_eq]
  | _ => rfl

theorem ownProblems_eq {a b : Expr} (h : Equals a b) (ctx : Context) :
    ctx.ownProblems b = ctx.ownProblems a := by
  rw [Context.ownProblems, Context.ownProblems, h.ownEvents_eq]

end Equals

/-- Whatever a string literal becomes equals itself. -/
theorem equals_refineOperand_self (ctx : Context) (op : Operator) (side : Side) (other : Expr)
    {e : Expr} (h : Context.isStringLiteral e = true) :
    Equals (ctx.refineOperand op side other e) (ctx.refineOperand op side other e) := by
  rw [ctx.refineOperand_of_isStringLiteral op side other h]
  obtain ⟨raw, pos, rfl⟩ := Context.eq_string_of_isStringLiteral h
  obtain ⟨leaf, events, heq, hstep⟩ := ctx.literalStep op side other raw pos
  rw [heq]
  cases hstep with
  | kept | notDate | notRegex => exact .string
  | toDate => exact .date rfl
  | toGlob => exact .glob
  | toRegex => exact .regex rfl

/-- The step at an operand: equal operands that are refined to equal expressions stay
equal when they are converted. -/
theorem Equals.refineOperand {ctx : Context} {other other' a b : Expr} (h : Equals a b)
    (hother : Equals other other') (hrefined : Equals (ctx.refine a).expr (ctx.refine b).expr)
    (op : Operator) (side : Side) :
    Equals (ctx.refineOperand op side other a) (ctx.refineOperand op side other' b) := by
  cases hstring : Context.isStringLiteral a with
  | true =>
    have hsame : ctx.refineOperand op side other' b = ctx.refineOperand op side other a := by
      rw [h.eq_of_isStringLiteral hstring, Context.refineOperand, Context.refineOperand,
        hother.convertOperand_eq]
    rw [hsame]
    exact equals_refineOperand_self ctx op side other hstring
  | false =>
    have hstring' := h.isStringLiteral_eq.trans hstring
    rw [ctx.refineOperand_of_not_isStringLiteral op side other hstring,
      ctx.refineOperand_of_not_isStringLiteral op side other' hstring']
    exact hrefined

/-! ## Queries -/

/-- Equal expressions are refined to equal ones. -/
theorem Equals.refine {a b : Expr} (h : Equals a b) (ctx : Context) :
    Equals (ctx.refine a).expr (ctx.refine b).expr := by
  induction h with
  | identifier => exact .identifier
  | string => exact .string
  | number value => exact .number value
  | date instant => exact .date instant
  | glob => exact .glob
  | regex source => exact .regex source
  | unary _ ih => exact .unary ih
  | binary left right ihl ihr =>
    rw [Context.refine_binary_expr, Context.refine_binary_expr]
    exact .binary (left.refineOperand right ihl _ _) (right.refineOperand left ihr _ _)
  | paren _ ih => exact .paren ih

/-- Equal expressions have the same problems. -/
theorem Equals.problems_eq {a b : Expr} (h : Equals a b) (ctx : Context) :
    ctx.problems b = ctx.problems a := by
  induction h with
  | unary operand ih =>
    rw [Context.problems_unary, Context.problems_unary, ih, (Equals.unary operand).ownProblems_eq]
  | binary left right ihl ihr =>
    rw [Context.problems_binary, Context.problems_binary, ihl, ihr,
      (Equals.binary left right).ownProblems_eq]
  | paren inner ih =>
    rw [Context.problems_paren, Context.problems_paren, ih, (Equals.paren inner).ownProblems_eq]
  | _ => rfl

end Expr

namespace Context

/-- Refinement does not tell equal queries apart: they have the same problems and are
refined to equal queries. -/
theorem process_of_isEqual (ctx : Context) (query query' : Expr)
    (h : query.isEqual query' = true) :
    (ctx.process query).problems = (ctx.process query').problems ∧
      (ctx.process query).expr.isEqual (ctx.process query').expr = true := by
  have hequals := Expr.isEqual_iff_equals.1 h
  have hform := hequals.isLogical_eq
  cases hlogical : query.isLogical with
  | true =>
    obtain ⟨hexpr, hproblems⟩ := process_of_isLogical ctx hlogical
    obtain ⟨hexpr', hproblems'⟩ := process_of_isLogical ctx (hform.trans hlogical)
    rw [hexpr, hexpr', hproblems, hproblems']
    exact ⟨(hequals.problems_eq ctx).symm, Expr.isEqual_iff_equals.2 (hequals.refine ctx)⟩
  | false =>
    obtain ⟨hexpr, hproblems⟩ := process_of_not_isLogical ctx hlogical
    obtain ⟨hexpr', hproblems'⟩ := process_of_not_isLogical ctx (hform.trans hlogical)
    rw [hexpr, hexpr', hproblems, hproblems', hequals.formName_eq]
    exact ⟨rfl, h⟩

/-- The theorem at `Size > 0 AND ("16 July" < noon OR Created < "2017-07-16")`, once with
zero and noon in universal time, and once with negative zero and the same instant an
hour to the east. -/
theorem process_of_isEqual_of_two_zeros :
    let ctx : Context :=
      { schema := (FieldTable.ofList [("Created", .date), ("Size", .number)]).schema
        zone := ZoneTable.zone ⟨0, []⟩ }
    let noon : Instant := ⟨1500206400, 0, by decide⟩
    let query (zero : Number) (offset : Int) := Expr.join .and ⟨1, 10⟩
      (.join .gt ⟨1, 6⟩ (.identifier "Size" ⟨1, 1⟩) (.number zero ⟨1, 8⟩))
      (.paren (.join .or ⟨1, 44⟩
        (.join .lt ⟨1, 22⟩ (.string "16 July" ⟨1, 15⟩) (.date ⟨noon, offset⟩ ⟨1, 24⟩))
        (.join .lt ⟨1, 55⟩ (.identifier "Created" ⟨1, 47⟩) (.string "2017-07-16" ⟨1, 57⟩))))
    let a := query ⟨0⟩ 0
    let b := query ⟨0x8000000000000000⟩ 3600
    a ≠ b ∧ a.isEqual b = true ∧ (ctx.process a).expr ≠ (ctx.process b).expr ∧
      (ctx.process b).problems =
        [.invalidDate ⟨1, 15⟩ "16 July" "YYYY-MM-DD" "YYYY-MM-DD HH:MM:SS"] ∧
      (ctx.process a).problems = (ctx.process b).problems ∧
      (ctx.process a).expr.isEqual (ctx.process b).expr = true := by
  intro ctx noon query a b
  have h : a.isEqual b = true := by decide
  exact ⟨by decide, h, by decide +kernel, by decide +kernel, process_of_isEqual ctx a b h⟩

end Context

end FilterQuery
