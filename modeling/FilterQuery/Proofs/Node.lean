import FilterQuery.Refinement
import Mathlib.Tactic.SplitIfs

/-!
# Refinement one node at a time

`Context.refine` works on refined operands and carries their types and
events along.  This module says what that comes to in terms of the query as
it was given: the type of a node, what becomes of each operand and which
events a node adds depend on the node and its immediate parts alone.

There are six groups.

* The nodes of an expression.  `Expr.nodes` lists them in post-order, and
  `Expr.forall_mem_nodes_binary` and its like split what holds of all of them.
* The problems among events, as a list of their own.
* Static types.  `Context.typeOf` reads the type off the node, and
  `refine_type` shows that refinement finds the same one.
* Operands.  `Context.convertOperand` converts one operand of a binary
  expression, whichever side it stands on, and `refine_binary_expr` puts
  the refined expression together from two such conversions.  Only string
  literals are converted, and `literalStep` lists all that can happen to
  one.
* Events.  `Context.ownEvents` are the events of a node by itself, and
  `refine_events` strings them together over all nodes.
* Problems.  `Context.problems` are those of an expression at any place of a
  query, and `process_of_isLogical` ties them to whole queries.
-/

namespace FilterQuery

/-! ## The nodes of an expression -/

/-- The parts of an expression, itself included: the parts of a left operand
before those of the right one, and operands before their operator. -/
def Expr.nodes : Expr → List Expr
  | .paren inner => inner.nodes ++ [.paren inner]
  | .unary op operand => operand.nodes ++ [.unary op operand]
  | .binary op lhs rhs => lhs.nodes ++ rhs.nodes ++ [.binary op lhs rhs]
  | e => [e]

namespace Expr

variable {P : Expr → Prop}

theorem self_mem_nodes (e : Expr) : e ∈ e.nodes := by
  cases e with
  | paren | unary | binary => exact List.mem_append_right _ List.mem_cons_self
  | _ => exact List.mem_cons_self

theorem forall_mem_nodes_paren {inner : Expr} :
    (∀ node ∈ (paren inner).nodes, P node) ↔
      (∀ node ∈ inner.nodes, P node) ∧ P (.paren inner) := by
  rw [nodes, List.forall_mem_append, List.forall_mem_singleton]

theorem forall_mem_nodes_unary {op : Operator} {operand : Expr} :
    (∀ node ∈ (unary op operand).nodes, P node) ↔
      (∀ node ∈ operand.nodes, P node) ∧ P (.unary op operand) := by
  rw [nodes, List.forall_mem_append, List.forall_mem_singleton]

theorem forall_mem_nodes_binary {op : Operator} {lhs rhs : Expr} :
    (∀ node ∈ (binary op lhs rhs).nodes, P node) ↔
      (∀ node ∈ lhs.nodes, P node) ∧ (∀ node ∈ rhs.nodes, P node) ∧ P (.binary op lhs rhs) := by
  rw [nodes, List.forall_mem_append, List.forall_mem_append, List.forall_mem_singleton, and_assoc]

end Expr

/-! ## The problems among events -/

namespace Event

/-- The problems that events report, in their order. -/
def problems (events : List Event) : List Problem := events.filterMap Event.problem?

@[simp]
theorem problems_nil : problems [] = [] := rfl

@[simp]
theorem problems_cons_problem (p : Problem) (events : List Event) :
    problems (.problem p :: events) = p :: problems events := rfl

@[simp]
theorem problems_cons_toDate (pos : Position) (raw : String) (value : ZonedTime)
    (events : List Event) : problems (.toDate pos raw value :: events) = problems events := rfl

@[simp]
theorem problems_cons_toGlob (pos : Position) (raw : String) (events : List Event) :
    problems (.toGlob pos raw :: events) = problems events := rfl

@[simp]
theorem problems_cons_toRegex (pos : Position) (raw : String) (events : List Event) :
    problems (.toRegex pos raw :: events) = problems events := rfl

@[simp]
theorem problems_append (first second : List Event) :
    problems (first ++ second) = problems first ++ problems second :=
  List.filterMap_append

end Event

namespace Context

/-! ## Static types -/

/-- The type of an expression, as the schema and its form give it. -/
def typeOf (ctx : Context) : Expr → FieldType
  | .identifier name _ => (ctx.schema.typeOf? name).getD .invalid
  | .string _ _ | .glob _ _ | .regex _ _ => .string
  | .number _ _ => .number
  | .date _ _ => .date
  | .unary _ _ | .binary _ _ _ | .paren _ => .boolean

@[simp]
theorem refine_type (ctx : Context) (e : Expr) : (ctx.refine e).type = ctx.typeOf e := by
  cases e with
  | identifier name pos =>
    simp only [refine, resolve, typeOf]
    cases ctx.schema.typeOf? name <;> rfl
  | _ => rfl

theorem typeOf_of_isLogical (ctx : Context) {e : Expr} (h : e.isLogical = true) :
    ctx.typeOf e = .boolean := by
  cases e with
  | paren | unary | binary => rfl
  | _ => cases h

theorem isStringLiteral_of_isLogical {e : Expr} (h : e.isLogical = true) :
    isStringLiteral e = false := by
  cases e with
  | string => cases h
  | _ => rfl

theorem eq_string_of_isStringLiteral {e : Expr} (h : isStringLiteral e = true) :
    ∃ raw pos, e = .string raw pos := by
  cases e with
  | string raw pos => exact ⟨raw, pos, rfl⟩
  | _ => simp [isStringLiteral] at h

/-- A string literal is not touched by its own refinement; only the operator
above it converts it. -/
theorem refine_expr_of_isStringLiteral (ctx : Context) {e : Expr}
    (h : isStringLiteral e = true) : (ctx.refine e).expr = e := by
  obtain ⟨raw, pos, rfl⟩ := eq_string_of_isStringLiteral h
  rfl

@[simp]
theorem isStringLiteral_refine (ctx : Context) (e : Expr) :
    isStringLiteral (ctx.refine e).expr = isStringLiteral e := by
  cases e <;> rfl

@[simp]
theorem typeOf_refine (ctx : Context) (e : Expr) :
    ctx.typeOf (ctx.refine e).expr = ctx.typeOf e := by
  cases e <;> rfl

/-! ## Operands -/

/-- Converts an operand of a binary expression, given the other operand as it
stood in the query.  A pattern operator takes the operand on its right, or
the one on its left if that has no string literal across from it. -/
def convertOperand (ctx : Context) (op : Operator) (side : Side) (other e : Expr) :
    Expr × List Event :=
  if op.kind.isPattern then
    if side = .lhs ∧ isStringLiteral other = true then (e, []) else convertPattern op.kind e
  else if op.kind.isComparison = true ∧ ctx.typeOf other = .date then ctx.convertDate e
  else (e, [])

theorem convertDate_of_not_isStringLiteral (ctx : Context) {e : Expr}
    (h : isStringLiteral e = false) : ctx.convertDate e = (e, []) := by
  cases e with
  | string => simp [isStringLiteral] at h
  | _ => rfl

theorem convertPattern_of_not_isStringLiteral (kind : OperatorKind) {e : Expr}
    (h : isStringLiteral e = false) : convertPattern kind e = (e, []) := by
  cases e with
  | string => simp [isStringLiteral] at h
  | _ => rfl

/-- Only string literals are converted. -/
theorem convertOperand_of_not_isStringLiteral (ctx : Context) (op : Operator)
    (side : Side) (other : Expr) {e : Expr} (h : isStringLiteral e = false) :
    ctx.convertOperand op side other e = (e, []) := by
  rw [convertOperand, convertPattern_of_not_isStringLiteral _ h,
    convertDate_of_not_isStringLiteral _ h]
  split_ifs <;> rfl

/-- The checks of a binary expression, which look at the types of its
operands only. -/
def checkBinary (op : Operator) (lhs rhs : FieldType) : List Event :=
  if op.kind.isLogical then checkConnective op lhs rhs
  else if op.kind.isComparison then
    checkValueTypes op lhs rhs ++ checkOperand op .lhs lhs ++ checkOperand op .rhs rhs
  else [.problem (.misplacedOperator op.pos op.token .binary)]

/-- The comparisons without a pattern. -/
def plainKinds : List OperatorKind := [.eq, .ne, .lt, .le, .gt, .ge]

theorem mem_plainKinds_iff {kind : OperatorKind} :
    kind ∈ plainKinds ↔ kind.isComparison = true ∧ kind.isPattern = false := by
  cases kind <;> decide

theorem checkOperand_plain (op : Operator) (side : Side) (type : FieldType)
    (hop : op.kind.isPattern = false) : checkOperand op side type = [] := by
  have hallowed : op.kind.allowedTypes? = none := by
    cases h : op.kind <;> simp_all [OperatorKind.isPattern, OperatorKind.allowedTypes?]
  rw [checkOperand, hallowed]

theorem isPattern_of_not_isComparison {kind : OperatorKind}
    (h : kind.isComparison = false) : kind.isPattern = false := by
  cases kind <;> simp_all [OperatorKind.isPattern, OperatorKind.isComparison]

theorem isComparison_of_isLogical {kind : OperatorKind} (h : kind.isLogical = true) :
    kind.isComparison = false := by
  cases kind <;> simp_all [OperatorKind.isLogical, OperatorKind.isComparison]

/-- Outside of comparisons nothing is converted. -/
theorem convertOperand_of_not_isComparison (ctx : Context) {op : Operator}
    (h : op.kind.isComparison = false) (side : Side) (other e : Expr) :
    ctx.convertOperand op side other e = (e, []) := by
  simp [convertOperand, isPattern_of_not_isComparison h, h]

/-- A pattern operator takes an operand for its pattern on the right, and across
from anything but a string literal. -/
theorem convertOperand_of_isPattern (ctx : Context) {op : Operator}
    (hop : op.kind.isPattern = true) {side : Side} {other : Expr}
    (h : side = .rhs ∨ isStringLiteral other = false) (e : Expr) :
    ctx.convertOperand op side other e = convertPattern op.kind e := by
  rw [convertOperand, if_pos hop]
  rcases h with rfl | h
  · rfl
  · simp [h]

/-- Everything that can happen to a string literal as an operand of `op`, across
from `other`. -/
inductive LiteralStep (ctx : Context) (op : Operator) (side : Side) (other : Expr)
    (raw : String) (pos : Position) : Expr → List Event → Prop where
  | kept (plain : op.kind ∈ plainKinds → ctx.typeOf other ≠ .date)
      (pattern : op.kind.isPattern = true → side = .lhs ∧ isStringLiteral other = true) :
      LiteralStep ctx op side other raw pos (.string raw pos) []
  | toDate {value} (kind : op.kind ∈ plainKinds) (date : ctx.typeOf other = .date)
      (reads : DateText.read? ctx.zone ctx.settings raw = some value) :
      LiteralStep ctx op side other raw pos (.date value pos) [.toDate pos raw value]
  | notDate (kind : op.kind ∈ plainKinds) (date : ctx.typeOf other = .date)
      (fails : DateText.read? ctx.zone ctx.settings raw = none) :
      LiteralStep ctx op side other raw pos (.string raw pos)
        [.problem (.invalidDate pos raw (DatePattern.describe ctx.settings.dateFormat)
          (DatePattern.describe ctx.settings.dateTimeFormat))]
  | toGlob (kind : op.kind = .glob) (pattern : side = .rhs ∨ isStringLiteral other = false) :
      LiteralStep ctx op side other raw pos (.glob raw pos) [.toGlob pos raw]
  | toRegex {value} (kind : op.kind = .regexp)
      (pattern : side = .rhs ∨ isStringLiteral other = false)
      (compiles : Regex.compile raw = .ok value) :
      LiteralStep ctx op side other raw pos (.regex value pos) [.toRegex pos raw]
  | notRegex {rejection} (kind : op.kind = .regexp)
      (pattern : side = .rhs ∨ isStringLiteral other = false)
      (fails : Regex.compile raw = .error rejection) :
      LiteralStep ctx op side other raw pos (.string raw pos)
        [.problem (.invalidRegex pos raw (rejection.reason raw))]

/-- Each of these is what the conversion does. -/
theorem LiteralStep.convertOperand_eq {ctx : Context} {op : Operator} {side : Side}
    {other : Expr} {raw : String} {pos : Position} {leaf : Expr} {events : List Event}
    (h : ctx.LiteralStep op side other raw pos leaf events) :
    ctx.convertOperand op side other (.string raw pos) = (leaf, events) := by
  cases h with
  | kept plain pattern =>
    cases hpattern : op.kind.isPattern with
    | true => rw [convertOperand, if_pos hpattern, if_pos (pattern hpattern)]
    | false =>
      have hdate : ¬(op.kind.isComparison = true ∧ ctx.typeOf other = .date) := by
        intro h
        exact plain (mem_plainKinds_iff.2 ⟨h.1, hpattern⟩) h.2
      rw [convertOperand, if_neg (by simp [hpattern]), if_neg hdate]
  | toDate kind date reads =>
    obtain ⟨hcomparison, hplain⟩ := mem_plainKinds_iff.1 kind
    simp [convertOperand, hcomparison, hplain, date, convertDate, Conversion.toDate, reads]
  | notDate kind date fails =>
    obtain ⟨hcomparison, hplain⟩ := mem_plainKinds_iff.1 kind
    simp [convertOperand, hcomparison, hplain, date, convertDate, Conversion.toDate, fails]
  | toGlob kind pattern =>
    rw [convertOperand_of_isPattern ctx (by rw [kind]; rfl) pattern, kind]
    rfl
  | toRegex kind pattern compiles =>
    rw [convertOperand_of_isPattern ctx (by rw [kind]; rfl) pattern, kind]
    simp [convertPattern, Conversion.toRegex, compiles]
  | notRegex kind pattern fails =>
    rw [convertOperand_of_isPattern ctx (by rw [kind]; rfl) pattern, kind]
    simp [convertPattern, Conversion.toRegex, fails]

theorem exists_literalStep_of_isPattern (ctx : Context) {op : Operator}
    (hop : op.kind.isPattern = true) {side : Side} {other : Expr}
    (hside : side = .rhs ∨ isStringLiteral other = false) (raw : String) (pos : Position) :
    ∃ leaf events, ctx.LiteralStep op side other raw pos leaf events := by
  cases hkind : op.kind with
  | glob => exact ⟨_, _, .toGlob hkind hside⟩
  | regexp =>
    cases hcompile : Regex.compile raw with
    | ok value => exact ⟨_, _, .toRegex hkind hside hcompile⟩
    | error rejection => exact ⟨_, _, .notRegex hkind hside hcompile⟩
  | _ => simp [hkind, OperatorKind.isPattern] at hop

/-- One of them always applies. -/
theorem exists_literalStep (ctx : Context) (op : Operator) (side : Side) (other : Expr)
    (raw : String) (pos : Position) :
    ∃ leaf events, ctx.LiteralStep op side other raw pos leaf events := by
  cases hpattern : op.kind.isPattern with
  | true =>
    by_cases hside : side = .lhs ∧ isStringLiteral other = true
    · refine ⟨_, _, .kept (fun hplain => ?_) fun _ => hside⟩
      rw [mem_plainKinds_iff, hpattern] at hplain
      cases hplain.2
    · have hside' : side = .rhs ∨ isStringLiteral other = false := by
        cases side <;> simp_all
      exact exists_literalStep_of_isPattern ctx hpattern hside' raw pos
  | false =>
    by_cases hdate : op.kind ∈ plainKinds ∧ ctx.typeOf other = .date
    · cases hread : DateText.read? ctx.zone ctx.settings raw with
      | some value => exact ⟨_, _, .toDate hdate.1 hdate.2 hread⟩
      | none => exact ⟨_, _, .notDate hdate.1 hdate.2 hread⟩
    · refine ⟨_, _, .kept (fun hplain htype => hdate ⟨hplain, htype⟩) fun h => ?_⟩
      rw [hpattern] at h
      cases h

/-- What a conversion does to a string literal. -/
theorem literalStep (ctx : Context) (op : Operator) (side : Side) (other : Expr)
    (raw : String) (pos : Position) :
    ∃ leaf events, ctx.convertOperand op side other (.string raw pos) = (leaf, events) ∧
      ctx.LiteralStep op side other raw pos leaf events := by
  obtain ⟨leaf, events, hstep⟩ := exists_literalStep ctx op side other raw pos
  exact ⟨leaf, events, hstep.convertOperand_eq, hstep⟩

/-- A pattern comparison converts the operand of each side on its own. -/
theorem refinePattern_eq (ctx : Context) {op : Operator} (lhs rhs : Expr)
    (hop : op.kind.isPattern = true) :
    refinePattern op (ctx.refine lhs) (ctx.refine rhs) =
      let l := ctx.convertOperand op .lhs rhs (ctx.refine lhs).expr
      let r := ctx.convertOperand op .rhs lhs (ctx.refine rhs).expr
      (l.1, r.1, l.2 ++ r.2) := by
  simp only [refinePattern, isStringLiteral_refine]
  cases hl : isStringLiteral lhs with
  | false =>
    -- The left operand is no literal, so at most the right one changes.
    have hl' : isStringLiteral (ctx.refine lhs).expr = false := by simp [hl]
    rw [convertOperand_of_not_isStringLiteral ctx op .lhs rhs hl']
    simp [convertOperand, hop]
  | true =>
    cases hr : isStringLiteral rhs with
    | false =>
      have hr' : isStringLiteral (ctx.refine rhs).expr = false := by simp [hr]
      rw [convertOperand_of_not_isStringLiteral ctx op .rhs lhs hr']
      simp [convertOperand, hop, hr]
    | true => simp [convertOperand, hop, hr]

/-- A plain comparison converts the operand of each side on its own. -/
theorem refinePlain_eq (ctx : Context) {op : Operator} (lhs rhs : Expr)
    (hop : op.kind.isComparison = true) (hpattern : op.kind.isPattern = false) :
    ctx.refinePlain (ctx.refine lhs) (ctx.refine rhs) =
      let l := ctx.convertOperand op .lhs rhs (ctx.refine lhs).expr
      let r := ctx.convertOperand op .rhs lhs (ctx.refine rhs).expr
      (l.1, r.1, l.2 ++ r.2) := by
  simp [refinePlain, convertOperand, hop, hpattern]

/-- What a binary expression does to its operands: the checks come first, then
the conversions from left to right. -/
theorem refineBinary_eq (ctx : Context) (op : Operator) (lhs rhs : Expr) :
    ctx.refineBinary op (ctx.refine lhs) (ctx.refine rhs) =
      let l := ctx.convertOperand op .lhs rhs (ctx.refine lhs).expr
      let r := ctx.convertOperand op .rhs lhs (ctx.refine rhs).expr
      (l.1, r.1, checkBinary op (ctx.typeOf lhs) (ctx.typeOf rhs) ++ (l.2 ++ r.2)) := by
  rw [refineBinary, checkBinary]
  split_ifs with hlogical hcomparison
  · simp [convertOperand_of_not_isComparison ctx (isComparison_of_isLogical hlogical)]
  · rw [refineComparison]
    cases hpattern : op.kind.isPattern with
    | true => simp [refinePattern_eq ctx lhs rhs hpattern]
    | false => simp [refinePlain_eq ctx lhs rhs hcomparison hpattern]
  · simp [convertOperand_of_not_isComparison ctx (Bool.of_not_eq_true hcomparison)]

/-- What becomes of an operand: it is refined by itself and then converted. -/
def refineOperand (ctx : Context) (op : Operator) (side : Side) (other e : Expr) : Expr :=
  (ctx.convertOperand op side other (ctx.refine e).expr).1

theorem refine_binary_expr (ctx : Context) (op : Operator) (lhs rhs : Expr) :
    (ctx.refine (.binary op lhs rhs)).expr =
      .binary op (ctx.refineOperand op .lhs rhs lhs) (ctx.refineOperand op .rhs lhs rhs) := by
  rw [refine, refineBinary_eq]
  rfl

theorem refineOperand_of_refine_eq (ctx : Context) (op : Operator) (side : Side)
    (other : Expr) {e : Expr} (h : (ctx.refine e).expr = e) :
    ctx.refineOperand op side other e = (ctx.convertOperand op side other e).1 := by
  rw [refineOperand, h]

/-- The two steps never both act: a string literal is only converted, and
anything else is only refined. -/
theorem refineOperand_of_isStringLiteral (ctx : Context) (op : Operator) (side : Side)
    (other : Expr) {e : Expr} (h : isStringLiteral e = true) :
    ctx.refineOperand op side other e = (ctx.convertOperand op side other e).1 :=
  refineOperand_of_refine_eq ctx op side other (refine_expr_of_isStringLiteral ctx h)

theorem refineOperand_of_not_isStringLiteral (ctx : Context) (op : Operator) (side : Side)
    (other : Expr) {e : Expr} (h : isStringLiteral e = false) :
    ctx.refineOperand op side other e = (ctx.refine e).expr := by
  have h' : isStringLiteral (ctx.refine e).expr = false := by simp [h]
  rw [refineOperand, convertOperand_of_not_isStringLiteral ctx op side other h']

theorem pos_convertOperand (ctx : Context) (op : Operator) (side : Side) (other e : Expr) :
    (ctx.convertOperand op side other e).1.pos = e.pos := by
  cases hstring : isStringLiteral e with
  | false => rw [convertOperand_of_not_isStringLiteral ctx op side other hstring]
  | true =>
    obtain ⟨raw, pos, rfl⟩ := eq_string_of_isStringLiteral hstring
    obtain ⟨leaf, events, heq, hstep⟩ := literalStep ctx op side other raw pos
    rw [heq]
    cases hstep <;> rfl

/-- Refinement keeps the position that an expression starts at. -/
@[simp]
theorem pos_refine (ctx : Context) (e : Expr) : (ctx.refine e).expr.pos = e.pos := by
  induction e with
  | paren inner ih => exact ih
  | binary op lhs rhs ihl _ =>
    rw [refine_binary_expr, Expr.pos, Expr.pos, refineOperand, pos_convertOperand, ihl]
  | _ => rfl

/-- Whether an expression is a literal.  Refinement makes literals of string
literals only, and never changes another one. -/
def isLiteral : Expr → Bool
  | .string _ _ | .number _ _ | .date _ _ | .glob _ _ | .regex _ _ => true
  | _ => false

theorem nodes_of_isLiteral {e : Expr} (h : isLiteral e = true) : e.nodes = [e] := by
  cases e with
  | string | number | date | glob | regex => rfl
  | _ => cases h

theorem refine_expr_of_isLiteral (ctx : Context) {e : Expr} (h : isLiteral e = true) :
    (ctx.refine e).expr = e := by
  cases e with
  | string | number | date | glob | regex => rfl
  | _ => cases h

theorem isLiteral_refineOperand (ctx : Context) (op : Operator) (side : Side) (other : Expr)
    {e : Expr} (h : isStringLiteral e = true) :
    isLiteral (ctx.refineOperand op side other e) = true := by
  rw [refineOperand_of_isStringLiteral ctx op side other h]
  obtain ⟨raw, pos, rfl⟩ := eq_string_of_isStringLiteral h
  obtain ⟨leaf, events, heq, hstep⟩ := literalStep ctx op side other raw pos
  rw [heq]
  cases hstep <;> rfl

/-- The two ways of an operand: a string literal becomes some literal, and
anything else is refined by itself. -/
theorem refineOperand_cases (ctx : Context) (op : Operator) (side : Side) (other e : Expr) :
    isStringLiteral e = true ∧ isLiteral (ctx.refineOperand op side other e) = true ∨
      isStringLiteral e = false ∧
        ctx.refineOperand op side other e = (ctx.refine e).expr := by
  cases hstring : isStringLiteral e with
  | true => exact .inl ⟨rfl, isLiteral_refineOperand ctx op side other hstring⟩
  | false => exact .inr ⟨rfl, refineOperand_of_not_isStringLiteral ctx op side other hstring⟩

/-! ## Events -/

/-- What happens to an operand can be read off the query as it was given. -/
theorem convertOperand_refine_events (ctx : Context) (op : Operator) (side : Side)
    (other e : Expr) :
    (ctx.convertOperand op side other (ctx.refine e).expr).2 =
      (ctx.convertOperand op side other e).2 := by
  cases he : isStringLiteral e with
  | true => rw [refine_expr_of_isStringLiteral ctx he]
  | false =>
    have he' : isStringLiteral (ctx.refine e).expr = false := by simp [he]
    rw [convertOperand_of_not_isStringLiteral ctx op side other he,
      convertOperand_of_not_isStringLiteral ctx op side other he']

/-- The events of a node apart from those of its parts. -/
def ownEvents (ctx : Context) : Expr → List Event
  | .identifier name pos => (ctx.resolve name pos).2
  | .paren inner =>
    if ctx.typeOf inner = .boolean then [] else [.problem (.parenNotBoolean inner.pos)]
  | .unary op operand => checkUnary op (ctx.typeOf operand)
  | .binary op lhs rhs =>
    checkBinary op (ctx.typeOf lhs) (ctx.typeOf rhs) ++
      ((ctx.convertOperand op .lhs rhs lhs).2 ++ (ctx.convertOperand op .rhs lhs rhs).2)
  | _ => []

/-- The events of a refinement are those of the nodes, in post-order. -/
theorem refine_events (ctx : Context) (e : Expr) :
    (ctx.refine e).events = e.nodes.flatMap ctx.ownEvents := by
  induction e with
  | paren inner ih =>
    simp [refine, Expr.nodes, ownEvents, checkParen, ih]
  | unary op operand ih =>
    simp [refine, Expr.nodes, ownEvents, ih]
  | binary op lhs rhs ihl ihr =>
    simp [refine, Expr.nodes, ownEvents, refineBinary_eq, convertOperand_refine_events, ihl, ihr]
  | _ => simp [refine, Expr.nodes, ownEvents]

/-! ## Problems -/

/-- The problems of an expression at any place of a query. -/
def problems (ctx : Context) (e : Expr) : List Problem :=
  Event.problems (ctx.refine e).events

/-- The problems of a node apart from those of its parts. -/
def ownProblems (ctx : Context) (e : Expr) : List Problem :=
  Event.problems (ctx.ownEvents e)

theorem problems_eq_flatMap (ctx : Context) (e : Expr) :
    ctx.problems e = e.nodes.flatMap ctx.ownProblems := by
  rw [problems, Event.problems, refine_events, List.filterMap_flatMap]
  rfl

theorem problems_of_isLiteral (ctx : Context) {e : Expr} (h : isLiteral e = true) :
    ctx.problems e = [] := by
  cases e with
  | string | number | date | glob | regex => rfl
  | _ => cases h

@[simp]
theorem problems_paren (ctx : Context) (inner : Expr) :
    ctx.problems (.paren inner) = ctx.problems inner ++ ctx.ownProblems (.paren inner) := by
  simp [problems_eq_flatMap, Expr.nodes]

@[simp]
theorem problems_unary (ctx : Context) (op : Operator) (operand : Expr) :
    ctx.problems (.unary op operand) =
      ctx.problems operand ++ ctx.ownProblems (.unary op operand) := by
  simp [problems_eq_flatMap, Expr.nodes]

@[simp]
theorem problems_binary (ctx : Context) (op : Operator) (lhs rhs : Expr) :
    ctx.problems (.binary op lhs rhs) =
      ctx.problems lhs ++ ctx.problems rhs ++ ctx.ownProblems (.binary op lhs rhs) := by
  simp [problems_eq_flatMap, Expr.nodes]

theorem ownProblems_binary (ctx : Context) (op : Operator) (lhs rhs : Expr) :
    ctx.ownProblems (.binary op lhs rhs) =
      Event.problems (checkBinary op (ctx.typeOf lhs) (ctx.typeOf rhs)) ++
        (Event.problems (ctx.convertOperand op .lhs rhs lhs).2 ++
          Event.problems (ctx.convertOperand op .rhs lhs rhs).2) := by
  simp [ownProblems, ownEvents]

/-- A query of logical form is refined as any expression is. -/
theorem process_of_isLogical (ctx : Context) {query : Expr} (h : query.isLogical = true) :
    (ctx.process query).expr = (ctx.refine query).expr ∧
      (ctx.process query).problems = ctx.problems query := by
  rw [process, if_pos h]
  exact ⟨rfl, rfl⟩

/-- Any other query comes back as it is, with one problem. -/
theorem process_of_not_isLogical (ctx : Context) {query : Expr}
    (h : query.isLogical = false) :
    (ctx.process query).expr = query ∧
      (ctx.process query).problems = [.notLogical query.formName] := by
  rw [process, if_neg (by simp [h])]
  exact ⟨rfl, rfl⟩

@[simp]
theorem isLogical_refine (ctx : Context) (e : Expr) :
    (ctx.refine e).expr.isLogical = e.isLogical := by
  cases e <;> rfl

end Context

end FilterQuery
