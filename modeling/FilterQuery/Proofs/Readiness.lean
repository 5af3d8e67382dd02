import FilterQuery.Proofs.Fixpoint
import FilterQuery.Proofs.Grammar

/-!
# What a valid query is refined to

Whoever evaluates a query gets the refined one and relies on its form: fields
exist, truth values and values stand where they belong, and no string
literal is left where a date or a pattern was meant.  `Context.IsReady` says
this of one node, and every node of a refined query is ready if refinement
found no problem.

The types that refinement checks are those of the query before any literal
was converted, so each fact about an operand is carried over to what became
of it.  The main step is `kept_of_isStringLiteral_refineOperand`: a string
literal that is left over without a problem is one that nothing asked to
convert.
-/

namespace FilterQuery

namespace Context

/-! ## Ready nodes -/

/-- A truth value by its form, or a field that is declared as one. -/
inductive IsBoolean (ctx : Context) : Expr → Prop where
  | logical {e} (form : e.isLogical = true) : IsBoolean ctx e
  | field {name pos} (declared : ctx.schema.typeOf? name = some .boolean) :
      IsBoolean ctx (.identifier name pos)

/-- What an evaluator relies on at a comparison. -/
structure IsReadyComparison (ctx : Context) (op : Operator) (lhs rhs : Expr) : Prop where
  /-- No operand is a truth value. -/
  values : ¬IsBoolean ctx lhs ∧ ¬IsBoolean ctx rhs
  /-- No date is compared with a text. -/
  dates : op.kind ∈ plainKinds →
    ¬(IsDate ctx lhs ∧ isStringLiteral rhs = true) ∧
      ¬(IsDate ctx rhs ∧ isStringLiteral lhs = true)
  /-- Only texts, and fields declared without a type, are matched. -/
  texts : op.kind.isPattern = true → IsMatchable ctx lhs ∧ IsMatchable ctx rhs
  /-- The right operand of a match is no text without a meaning. -/
  pattern : op.kind.isPattern = true → isStringLiteral rhs = false
  /-- A text on the left is matched with a glob on the right. -/
  glob : op.kind = .glob → isStringLiteral lhs = true → ∃ pattern pos, rhs = .glob pattern pos
  /-- A text on the left is matched with a regular expression on the right. -/
  regexp : op.kind = .regexp → isStringLiteral lhs = true → ∃ value pos, rhs = .regex value pos

/-- What an evaluator relies on at a node. -/
inductive IsReady (ctx : Context) : Expr → Prop where
  | identifier {name pos type} (declared : ctx.schema.typeOf? name = some type) :
      IsReady ctx (.identifier name pos)
  | literal {e} (literal : isLiteral e = true) : IsReady ctx e
  | paren {inner} (truth : IsBoolean ctx inner) : IsReady ctx (.paren inner)
  | negation {op operand} (kind : op.kind = .not) (truth : IsBoolean ctx operand) :
      IsReady ctx (.unary op operand)
  | connective {op lhs rhs} (kind : op.kind = .and ∨ op.kind = .or)
      (left : IsBoolean ctx lhs) (right : IsBoolean ctx rhs) : IsReady ctx (.binary op lhs rhs)
  | comparison {op lhs rhs} (kind : op.kind.isComparison = true)
      (ready : IsReadyComparison ctx op lhs rhs) : IsReady ctx (.binary op lhs rhs)

theorem typeOf_eq_boolean_iff (ctx : Context) (e : Expr) :
    ctx.typeOf e = .boolean ↔ IsBoolean ctx e := by
  constructor
  · intro h
    cases e with
    | identifier name pos =>
      rw [typeOf, Option.getD_eq_iff] at h
      rcases h with declared | ⟨-, h⟩
      · exact .field declared
      · cases h
    | paren | unary | binary => exact .logical rfl
    | _ => cases h
  · intro h
    cases h with
    | logical form => exact typeOf_of_isLogical ctx form
    | field declared => simp [typeOf, declared]

/-! ## Operands -/

theorem isBoolean_refine_iff (ctx : Context) (e : Expr) :
    IsBoolean ctx (ctx.refine e).expr ↔ IsBoolean ctx e := by
  rw [← typeOf_eq_boolean_iff, ← typeOf_eq_boolean_iff, typeOf_refine]

theorem isBoolean_refineOperand_iff (ctx : Context) (op : Operator) (side : Side)
    (other e : Expr) : IsBoolean ctx (ctx.refineOperand op side other e) ↔ IsBoolean ctx e := by
  rw [← typeOf_eq_boolean_iff, ← typeOf_eq_boolean_iff, typeOf_refineOperand_eq_boolean_iff]

theorem IsValue.of_isLiteral (ctx : Context) {e : Expr} (h : isLiteral e = true) :
    IsValue ctx e := by
  cases e with
  | string => exact .string
  | number => exact .number
  | date => exact .date
  | glob => exact .glob
  | regex => exact .regex
  | _ => cases h

theorem IsValue.refineOperand {ctx : Context} {e : Expr} (h : IsValue ctx e) (op : Operator)
    (side : Side) (other : Expr) : IsValue ctx (ctx.refineOperand op side other e) := by
  rcases refineOperand_cases ctx op side other e with ⟨_, hliteral⟩ | ⟨_, heq⟩
  · exact .of_isLiteral ctx hliteral
  · rw [heq]
    cases h with
    | field declared value => exact .field declared value
    | _ => exact .of_isLiteral ctx rfl

/-- What can be matched can still be matched after it was converted. -/
theorem isMatchable_refineOperand {ctx : Context} {op : Operator}
    (hpattern : op.kind.isPattern = true) {side : Side} {e : Expr} (hvalue : IsValue ctx e)
    (hcheck : Event.problems (checkOperand op side (ctx.typeOf e)) = []) (other : Expr) :
    IsMatchable ctx (ctx.refineOperand op side other e) := by
  have htype : ctx.typeOf (ctx.refineOperand op side other e) = ctx.typeOf e := by
    refine (typeOf_refineOperand ctx op side other e).resolve_right fun h => ?_
    rw [hpattern] at h
    cases h.1
  rw [(hvalue.refineOperand op side other).isMatchable_iff, htype]
  exact (checkOperand_pattern_eq_nil_iff op side hpattern hvalue.typeOf_ne).1 hcheck

/-- A string literal that is left over without a problem: no date stands across
from it, and no pattern was asked for at its place. -/
theorem kept_of_isStringLiteral_refineOperand {ctx : Context} {op : Operator} {side : Side}
    {other e : Expr} (hnil : Event.problems (ctx.convertOperand op side other e).2 = [])
    (h : isStringLiteral (ctx.refineOperand op side other e) = true) :
    (op.kind ∈ plainKinds → ctx.typeOf other ≠ .date) ∧
      (op.kind.isPattern = true → side = .lhs ∧ isStringLiteral other = true) := by
  obtain ⟨hstring, -⟩ := refineOperand_eq_self ctx op side other h
  rw [refineOperand_of_isStringLiteral ctx op side other hstring] at h
  obtain ⟨raw, pos, rfl⟩ := eq_string_of_isStringLiteral hstring
  obtain ⟨leaf, events, heq, hstep⟩ := literalStep ctx op side other raw pos
  rw [heq] at hnil h
  cases hstep with
  | kept plain pattern => exact ⟨plain, pattern⟩
  | notDate | notRegex => cases hnil
  | toDate | toGlob | toRegex => cases h

/-- What the right operand of a match between two texts becomes. -/
theorem refineOperand_rhs_of_isPattern {ctx : Context} {op : Operator} {lhs rhs : Expr}
    (hpattern : op.kind.isPattern = true) (hrhs : isStringLiteral rhs = true)
    (hnil : Event.problems (ctx.convertOperand op .rhs lhs rhs).2 = []) :
    (op.kind = .glob → ∃ pattern pos, ctx.refineOperand op .rhs lhs rhs = .glob pattern pos) ∧
      (op.kind = .regexp → ∃ value pos, ctx.refineOperand op .rhs lhs rhs = .regex value pos) := by
  rw [refineOperand_of_isStringLiteral ctx op .rhs lhs hrhs]
  obtain ⟨raw, pos, rfl⟩ := eq_string_of_isStringLiteral hrhs
  obtain ⟨leaf, events, heq, hstep⟩ := literalStep ctx op .rhs lhs raw pos
  rw [heq] at hnil ⊢
  cases hstep with
  | kept _ pattern => cases (pattern hpattern).1
  | toDate kind =>
    rw [mem_plainKinds_iff, hpattern] at kind
    cases kind.2
  | notDate | notRegex => cases hnil
  | toGlob kind =>
    refine ⟨fun _ => ⟨_, _, rfl⟩, fun hregexp => ?_⟩
    rw [kind] at hregexp
    cases hregexp
  | toRegex kind =>
    refine ⟨fun hglob => ?_, fun _ => ⟨_, _, rfl⟩⟩
    rw [kind] at hglob
    cases hglob

/-! ## Comparisons -/

/-- Across from a string literal that is left over, a date of the refined
comparison was a date before. -/
theorem not_isDate_refineOperand {ctx : Context} {op : Operator} (hop : op.kind ∈ plainKinds)
    {side side' : Side} {e other : Expr}
    (hnil : Event.problems (ctx.convertOperand op side other e).2 = []) :
    ¬(IsDate ctx (ctx.refineOperand op side' e other) ∧
      isStringLiteral (ctx.refineOperand op side other e) = true) := by
  intro h
  obtain ⟨hdate, hstring⟩ := h
  obtain ⟨he, -⟩ := refineOperand_eq_self ctx op side other hstring
  rw [← typeOf_eq_date_iff, typeOf_refineOperand_of_isStringLiteral ctx op side' he] at hdate
  exact (kept_of_isStringLiteral_refineOperand hnil hstring).1 hop hdate

/-- A comparison without problems is refined to one that is ready. -/
theorem isReadyComparison_of_problems_eq_nil {ctx : Context} {op : Operator} {lhs rhs : Expr}
    (hop : op.kind.isComparison = true) (hl : ctx.problems lhs = [])
    (hr : ctx.problems rhs = []) (hown : ctx.ownProblems (.binary op lhs rhs) = []) :
    IsReadyComparison ctx op (ctx.refineOperand op .lhs rhs lhs)
      (ctx.refineOperand op .rhs lhs rhs) := by
  obtain ⟨⟨htl, htr⟩, ⟨hcl, hcr⟩, hnl, hnr⟩ := (comparison_checks_eq_nil_iff ctx lhs rhs hop).1 hown
  have hvl : IsValue ctx lhs := .of_typeOf ((problems_eq_nil_iff ctx lhs).1 hl) htl
  have hvr : IsValue ctx rhs := .of_typeOf ((problems_eq_nil_iff ctx rhs).1 hr) htr
  have hpair : op.kind.isPattern = true →
      isStringLiteral (ctx.refineOperand op .lhs rhs lhs) = true → isStringLiteral rhs = true :=
    fun hpattern hstring =>
      ((kept_of_isStringLiteral_refineOperand hnl hstring).2 hpattern).2
  refine ⟨?_, ?_, ?_, ?_, ?_, ?_⟩
  · rw [isBoolean_refineOperand_iff, isBoolean_refineOperand_iff, ← typeOf_eq_boolean_iff,
      ← typeOf_eq_boolean_iff]
    exact ⟨htl, htr⟩
  · intro hplain
    exact ⟨not_isDate_refineOperand hplain hnr, not_isDate_refineOperand hplain hnl⟩
  · intro hpattern
    exact ⟨isMatchable_refineOperand hpattern hvl hcl rhs,
      isMatchable_refineOperand hpattern hvr hcr lhs⟩
  · intro hpattern
    by_contra hstring
    have hkept := kept_of_isStringLiteral_refineOperand hnr (Bool.of_not_eq_false hstring)
    cases (hkept.2 hpattern).1
  · intro hglob hstring
    have hpattern : op.kind.isPattern = true := by rw [hglob]; rfl
    exact (refineOperand_rhs_of_isPattern hpattern (hpair hpattern hstring) hnr).1 hglob
  · intro hregexp hstring
    have hpattern : op.kind.isPattern = true := by rw [hregexp]; rfl
    exact (refineOperand_rhs_of_isPattern hpattern (hpair hpattern hstring) hnr).2 hregexp

/-! ## Queries -/

theorem isReady_refineOperand {ctx : Context} {e : Expr}
    (h : ∀ node ∈ (ctx.refine e).expr.nodes, IsReady ctx node) (op : Operator) (side : Side)
    (other : Expr) : ∀ node ∈ (ctx.refineOperand op side other e).nodes, IsReady ctx node := by
  rcases refineOperand_cases ctx op side other e with ⟨_, hliteral⟩ | ⟨_, heq⟩
  · intro node hnode
    rw [nodes_of_isLiteral hliteral, List.mem_singleton] at hnode
    exact .literal (hnode ▸ hliteral)
  · rw [heq]
    exact h

/-- The step at an operator. -/
theorem isReady_binary {ctx : Context} {op : Operator} {lhs rhs : Expr}
    (hl : ctx.problems lhs = []) (hr : ctx.problems rhs = [])
    (hown : ctx.ownProblems (.binary op lhs rhs) = []) :
    IsReady ctx (.binary op (ctx.refineOperand op .lhs rhs lhs)
      (ctx.refineOperand op .rhs lhs rhs)) := by
  have hkinds : (op.kind = .and ∨ op.kind = .or) ∨ op.kind = .not ∨
      op.kind.isComparison = true := by
    cases op.kind <;> simp [OperatorKind.isComparison]
  rcases hkinds with hkind | hkind | hkind
  · have hlogical : op.kind.isLogical = true := by
      rcases hkind with hkind | hkind <;> rw [hkind] <;> rfl
    obtain ⟨htl, htr⟩ := (ownProblems_connective_eq_nil_iff ctx lhs rhs hlogical).1 hown
    rw [typeOf_eq_boolean_iff] at htl htr
    exact .connective hkind ((isBoolean_refineOperand_iff ctx op .lhs rhs lhs).2 htl)
      ((isBoolean_refineOperand_iff ctx op .rhs lhs rhs).2 htr)
  · exact absurd hown (ownProblems_misplaced_ne_nil ctx lhs rhs hkind)
  · exact .comparison hkind (isReadyComparison_of_problems_eq_nil hkind hl hr hown)

/-- Every node of an expression without problems is refined to one that is
ready. -/
theorem isReady_refine {ctx : Context} {e : Expr} (h : ctx.problems e = []) :
    ∀ node ∈ (ctx.refine e).expr.nodes, IsReady ctx node := by
  induction e with
  | identifier name pos =>
    obtain ⟨type, declared⟩ := (problems_identifier_eq_nil_iff ctx name pos).1 h
    exact List.forall_mem_singleton.2 (.identifier declared)
  | paren inner ih =>
    rw [problems_paren, List.append_eq_nil_iff, ownProblems_paren_eq_nil_iff,
      typeOf_eq_boolean_iff] at h
    obtain ⟨hinner, hboolean⟩ := h
    exact Expr.forall_mem_nodes_paren.2
      ⟨ih hinner, .paren ((isBoolean_refine_iff ctx inner).2 hboolean)⟩
  | unary op operand ih =>
    rw [problems_unary, List.append_eq_nil_iff, ownProblems_unary_eq_nil_iff,
      typeOf_eq_boolean_iff] at h
    obtain ⟨hoperand, hkind, hboolean⟩ := h
    exact Expr.forall_mem_nodes_unary.2
      ⟨ih hoperand, .negation hkind ((isBoolean_refine_iff ctx operand).2 hboolean)⟩
  | binary op lhs rhs ihl ihr =>
    rw [problems_binary, List.append_eq_nil_iff, List.append_eq_nil_iff] at h
    obtain ⟨⟨hl, hr⟩, hown⟩ := h
    rw [refine_binary_expr]
    exact Expr.forall_mem_nodes_binary.2 ⟨isReady_refineOperand (ihl hl) op .lhs rhs,
      isReady_refineOperand (ihr hr) op .rhs lhs, isReady_binary hl hr hown⟩
  | _ => exact List.forall_mem_singleton.2 (.literal rfl)

/-- A valid query is ready for evaluation at every node. -/
theorem process_isReady (ctx : Context) (query : Expr)
    (h : (ctx.process query).isValid = true) :
    ∀ node ∈ (ctx.process query).expr.nodes, IsReady ctx node := by
  rw [Outcome.isValid, List.isEmpty_iff] at h
  cases hlogical : query.isLogical with
  | true =>
    rw [(process_of_isLogical ctx hlogical).2] at h
    rw [(process_of_isLogical ctx hlogical).1]
    exact isReady_refine h
  | false =>
    rw [(process_of_not_isLogical ctx hlogical).2] at h
    cases h

/-- The theorem at
`NOT (Created >= "2017-07-16") AND ("a*" GLOB Summary OR "a" REGEXP "b")`. -/
theorem process_isReady_of_three_comparisons :
    let ctx : Context :=
      { schema := (FieldTable.ofList [("Created", .date), ("Summary", .string)]).schema
        zone := ZoneTable.zone ⟨0, []⟩ }
    let query := Expr.join .and ⟨1, 31⟩
      (.negation ⟨1, 1⟩ (.paren
        (.join .ge ⟨1, 14⟩ (.identifier "Created" ⟨1, 6⟩) (.string "2017-07-16" ⟨1, 17⟩))))
      (.paren (.join .or ⟨1, 54⟩
        (.join .glob ⟨1, 41⟩ (.string "a*" ⟨1, 36⟩) (.identifier "Summary" ⟨1, 46⟩))
        (.join .regexp ⟨1, 61⟩ (.string "a" ⟨1, 57⟩) (.string "b" ⟨1, 68⟩))))
    (ctx.process query).isValid = true ∧
      ∀ node ∈ (ctx.process query).expr.nodes, IsReady ctx node := by
  intro ctx query
  have hvalid : (ctx.process query).isValid = true := by decide +kernel
  exact ⟨hvalid, process_isReady ctx query hvalid⟩

end Context

end FilterQuery
