import FilterQuery.Proofs.PostOrder

/-!
# How many problems a query can have

A query has no more problems than nodes.  Most nodes have one problem of their
own at most, but a pattern comparison can have two, and the second one has to be
paid for by an operand.  An operand that has problems itself is a truth value or
a field that the schema does not have.  A comparison of two such operands has
one problem at most, so wherever there are two, an operand has none.

There are three groups.

* Checks.  Each reports one problem at most, and only for operands of certain
  types.  `plainBudget` and `matchBudget` add up what the types allow.
* Nodes.  `length_nodeProblems_le` bounds the problems of a node by itself, and
  `length_nodeProblems_le_one` those of an operator whose operands both have
  problems.
* Queries.  `length_problems_le` is the induction, and
  `process_problems_within_budget` the result.
-/

namespace FilterQuery

/-! ## Checks -/

/-- The most problems of a plain comparison of operands of two types. -/
def FieldType.plainBudget (lhs rhs : FieldType) : Nat :=
  (if lhs = .boolean ∨ rhs = .boolean then 1 else 0) +
    ((if rhs = .date ∧ lhs = .string then 1 else 0) +
      (if lhs = .date ∧ rhs = .string then 1 else 0))

/-- The most problems of a pattern comparison of operands of two types. -/
def FieldType.matchBudget (lhs rhs : FieldType) : Nat :=
  (if lhs = .boolean ∨ rhs = .boolean then 1 else 0) +
    ((if lhs = .number ∨ lhs = .date then 1 else 0) +
      (if rhs = .number ∨ rhs = .date then 1 else 0) +
      (if lhs = .string ∨ rhs = .string then 1 else 0))

theorem FieldType.plainBudget_le (lhs rhs : FieldType) : lhs.plainBudget rhs ≤ 1 := by
  cases lhs <;> cases rhs <;> decide

theorem FieldType.matchBudget_le (lhs rhs : FieldType) : lhs.matchBudget rhs ≤ 2 := by
  cases lhs <;> cases rhs <;> decide

theorem FieldType.matchBudget_le_one {lhs rhs : FieldType} (hl : lhs = .invalid ∨ lhs = .boolean)
    (hr : rhs = .invalid ∨ rhs = .boolean) : lhs.matchBudget rhs ≤ 1 := by
  rcases hl with rfl | rfl <;> rcases hr with rfl | rfl <;> decide

namespace Context

theorem length_check {c : Prop} [Decidable c] (p : Problem) :
    (if c then [p] else []).length = if c then 1 else 0 := by
  split_ifs <;> rfl

theorem length_operandProblems (op : Operator) (side : Side) (type : FieldType) :
    (operandProblems op side type).length = if type = .number ∨ type = .date then 1 else 0 :=
  length_check _

/-- Only a text is reported as no date. -/
theorem length_dateProblems_le (ctx : Context) (e : Expr) :
    (ctx.dateProblems e).length ≤ if ctx.typeOf e = .string then 1 else 0 := by
  cases e with
  | string raw pos =>
    rw [dateProblems, length_check, typeOf, if_pos rfl]
    split_ifs <;> decide
  | _ => exact Nat.zero_le _

/-- Only a text is reported as no regular expression. -/
theorem length_regexProblems_le (ctx : Context) (e : Expr) :
    (regexProblems e).length ≤ if ctx.typeOf e = .string then 1 else 0 := by
  cases e with
  | string raw pos =>
    rw [regexProblems, typeOf, if_pos rfl]
    split
    · exact Nat.zero_le _
    · exact Nat.le_refl _
  | _ => exact Nat.zero_le _

theorem length_regexProblems_patternOperand_le (ctx : Context) (lhs rhs : Expr) :
    (regexProblems (patternOperand lhs rhs)).length ≤
      if ctx.typeOf lhs = .string ∨ ctx.typeOf rhs = .string then 1 else 0 := by
  have hle := length_regexProblems_le ctx (patternOperand lhs rhs)
  rcases patternOperand_cases lhs rhs with heq | heq
  · rw [heq] at hle ⊢
    by_cases hstring : ctx.typeOf lhs = .string
    · simpa [hstring] using hle
    · rw [if_neg hstring] at hle
      omega
  · rw [heq] at hle ⊢
    by_cases hstring : ctx.typeOf rhs = .string
    · simpa [hstring] using hle
    · rw [if_neg hstring] at hle
      omega

/-! ## Nodes -/

/-- Whether an expression matches an operand against a pattern. -/
def isPatternComparison : Expr → Bool
  | .binary op _ _ => op.kind.isPattern
  | _ => false

theorem length_dateProblems_across_le (ctx : Context) (e other : Expr) :
    (if ctx.typeOf other = .date then ctx.dateProblems e else []).length ≤
      if ctx.typeOf other = .date ∧ ctx.typeOf e = .string then 1 else 0 := by
  have hle := length_dateProblems_le ctx e
  by_cases hdate : ctx.typeOf other = .date
  · simpa [hdate] using hle
  · simp [hdate]

theorem length_comparisonProblems_of_plain (ctx : Context) {op : Operator}
    (hop : op.kind.isPattern = false) (lhs rhs : Expr) :
    (ctx.comparisonProblems op lhs rhs).length ≤
      (ctx.typeOf lhs).plainBudget (ctx.typeOf rhs) := by
  rw [comparisonProblems, FieldType.plainBudget, List.length_append, length_check]
  apply Nat.add_le_add_left
  cases hkind : op.kind with
  | glob | regexp => simp [hkind, OperatorKind.isPattern] at hop
  | _ =>
    rw [List.length_append]
    exact Nat.add_le_add (length_dateProblems_across_le ctx lhs rhs)
      (length_dateProblems_across_le ctx rhs lhs)

theorem length_comparisonProblems_of_isPattern (ctx : Context) {op : Operator}
    (hop : op.kind.isPattern = true) (lhs rhs : Expr) :
    (ctx.comparisonProblems op lhs rhs).length ≤
      (ctx.typeOf lhs).matchBudget (ctx.typeOf rhs) := by
  have hregex := length_regexProblems_patternOperand_le ctx lhs rhs
  rw [comparisonProblems, FieldType.matchBudget, List.length_append, length_check]
  apply Nat.add_le_add_left
  cases hkind : op.kind with
  | glob =>
    simp only [List.length_append, length_operandProblems]
    omega
  | regexp =>
    simp only [List.length_append, length_operandProblems]
    omega
  | _ => simp [hkind, OperatorKind.isPattern] at hop

theorem nodeProblems_of_isComparison (ctx : Context) {op : Operator} (lhs rhs : Expr)
    (hop : op.kind.isComparison = true) :
    ctx.nodeProblems (.binary op lhs rhs) = ctx.comparisonProblems op lhs rhs := by
  rw [nodeProblems]
  cases hkind : op.kind with
  | and | or | not => simp [hkind, OperatorKind.isComparison] at hop
  | _ => rfl

theorem length_nodeProblems_of_not_isComparison (ctx : Context) {op : Operator} (lhs rhs : Expr)
    (hop : op.kind.isComparison = false) :
    (ctx.nodeProblems (.binary op lhs rhs)).length ≤ 1 := by
  rw [nodeProblems]
  cases hkind : op.kind with
  | and | or =>
    simp only [length_check]
    split_ifs <;> decide
  | not => exact Nat.le_refl 1
  | _ => simp [hkind, OperatorKind.isComparison] at hop

/-- A node by itself has two problems at most if it is a pattern comparison, and
else one. -/
theorem length_nodeProblems_le (ctx : Context) (e : Expr) :
    (ctx.nodeProblems e).length ≤ if isPatternComparison e then 2 else 1 := by
  cases e with
  | identifier | paren =>
    rw [nodeProblems, length_check]
    split_ifs <;> decide
  | unary op operand =>
    rw [nodeProblems]
    split_ifs <;> simp
  | binary op lhs rhs =>
    rw [isPatternComparison]
    cases hcomparison : op.kind.isComparison with
    | false =>
      rw [isPattern_of_not_isComparison hcomparison]
      exact length_nodeProblems_of_not_isComparison ctx lhs rhs hcomparison
    | true =>
      rw [nodeProblems_of_isComparison ctx lhs rhs hcomparison]
      cases hpattern : op.kind.isPattern with
      | true =>
        exact Nat.le_trans (length_comparisonProblems_of_isPattern ctx hpattern lhs rhs)
          (FieldType.matchBudget_le _ _)
      | false =>
        exact Nat.le_trans (length_comparisonProblems_of_plain ctx hpattern lhs rhs)
          (FieldType.plainBudget_le _ _)
  | _ => exact Nat.zero_le _

/-- An expression with problems is a truth value or a field that the schema does
not have. -/
theorem typeOf_of_problems_ne_nil {ctx : Context} {e : Expr} (h : ctx.problems e ≠ []) :
    ctx.typeOf e = .invalid ∨ ctx.typeOf e = .boolean := by
  cases e with
  | identifier name pos =>
    cases hfield : ctx.schema.typeOf? name with
    | none => exact .inl (by simp [typeOf, hfield])
    | some type => exact absurd ((problems_identifier_eq_nil_iff ctx name pos).2 ⟨type, hfield⟩) h
  | paren | unary | binary => exact .inr rfl
  | _ => exact absurd (problems_of_isLiteral ctx rfl) h

/-- An operator has two problems only if an operand has none. -/
theorem length_nodeProblems_le_one {ctx : Context} {op : Operator} {lhs rhs : Expr}
    (hl : ctx.problems lhs ≠ []) (hr : ctx.problems rhs ≠ []) :
    (ctx.nodeProblems (.binary op lhs rhs)).length ≤ 1 := by
  have hle := length_nodeProblems_le ctx (.binary op lhs rhs)
  cases hpattern : op.kind.isPattern with
  | false => simpa [isPatternComparison, hpattern] using hle
  | true =>
    have hcomparison : op.kind.isComparison = true := by
      by_contra hcomparison
      rw [isPattern_of_not_isComparison (Bool.of_not_eq_true hcomparison)] at hpattern
      cases hpattern
    rw [nodeProblems_of_isComparison ctx lhs rhs hcomparison]
    exact Nat.le_trans (length_comparisonProblems_of_isPattern ctx hpattern lhs rhs)
      (FieldType.matchBudget_le_one (typeOf_of_problems_ne_nil hl) (typeOf_of_problems_ne_nil hr))

/-! ## Queries -/

theorem length_nodes_pos (e : Expr) : 0 < e.nodes.length := by
  cases e with
  | paren | unary | binary =>
    rw [Expr.nodes, List.length_append]
    exact Nat.succ_pos _
  | _ => exact Nat.one_pos

/-- An expression has no more problems than nodes.  At an operator with two
problems one operand has none, so the root of that operand pays for the second
one. -/
theorem length_problems_le (ctx : Context) (e : Expr) :
    (ctx.problems e).length ≤ e.nodes.length := by
  induction e with
  | identifier name pos =>
    have hown : (ctx.nodeProblems (.identifier name pos)).length ≤ 1 :=
      length_nodeProblems_le ctx _
    simpa [problems_eq_flatMap, Expr.nodes, ownProblems_eq_nodeProblems] using hown
  | paren inner ih =>
    have hown : (ctx.nodeProblems (.paren inner)).length ≤ 1 := length_nodeProblems_le ctx _
    rw [problems_paren, ownProblems_eq_nodeProblems, Expr.nodes, List.length_append,
      List.length_append]
    exact Nat.add_le_add ih hown
  | unary op operand ih =>
    have hown : (ctx.nodeProblems (.unary op operand)).length ≤ 1 := length_nodeProblems_le ctx _
    rw [problems_unary, ownProblems_eq_nodeProblems, Expr.nodes, List.length_append,
      List.length_append]
    exact Nat.add_le_add ih hown
  | binary op lhs rhs ihl ihr =>
    have hown : (ctx.nodeProblems (.binary op lhs rhs)).length ≤ 2 := by
      have hle := length_nodeProblems_le ctx (.binary op lhs rhs)
      split_ifs at hle <;> omega
    have hpos := length_nodes_pos lhs
    have hpos' := length_nodes_pos rhs
    simp only [problems_binary, ownProblems_eq_nodeProblems, Expr.nodes, List.length_append,
      List.length_singleton]
    by_cases hl : ctx.problems lhs = []
    · rw [hl, List.length_nil]
      omega
    · by_cases hr : ctx.problems rhs = []
      · rw [hr, List.length_nil]
        omega
      · have hone : (ctx.nodeProblems (.binary op lhs rhs)).length ≤ 1 :=
          length_nodeProblems_le_one hl hr
        omega
  | _ => exact Nat.zero_le _

/-- The problems that a query has on account of one of its nodes: those of the
node by itself, or that the form of the query cannot give a truth value. -/
def contribution (ctx : Context) (query node : Expr) : List Problem :=
  if query.isLogical then ctx.nodeProblems node else [.notLogical query.formName]

/-- A query has no more problems than nodes.  Its problems are contributed by its
nodes, two at most by a pattern comparison and one at most by any other node. -/
theorem process_problems_within_budget (ctx : Context) (query : Expr) :
    (ctx.process query).problems.length ≤ query.nodes.length ∧
      (ctx.process query).problems = query.nodes.flatMap (ctx.contribution query) ∧
      ∀ node, (ctx.contribution query node).length ≤ if isPatternComparison node then 2 else 1 := by
  cases hlogical : query.isLogical with
  | true =>
    have hcontribution : ctx.contribution query = ctx.nodeProblems :=
      funext fun node => if_pos hlogical
    rw [(process_of_isLogical ctx hlogical).2, hcontribution]
    refine ⟨length_problems_le ctx query, ?_, length_nodeProblems_le ctx⟩
    rw [problems_eq_flatMap, funext (ownProblems_eq_nodeProblems ctx)]
  | false =>
    have hcontribution : ctx.contribution query = fun _ => [.notLogical query.formName] :=
      funext fun node => if_neg (by simp [hlogical])
    have hnodes : query.nodes = [query] := by
      cases query with
      | paren | unary | binary => cases hlogical
      | _ => rfl
    rw [(process_of_not_isLogical ctx hlogical).2, hcontribution, hnodes]
    refine ⟨Nat.le_refl 1, rfl, fun node => ?_⟩
    split_ifs <;> simp

-- The bound is reached: each node of `(Bogus)` has a problem, and `(Bogus) REGEXP "("` has two
-- more, of which the literal pays for one.
example :
    let ctx : Context := { schema := ⟨fun _ => none⟩, zone := ZoneTable.zone ⟨0, []⟩ }
    let query := Expr.join .regexp ⟨1, 9⟩ (.paren (.identifier "Bogus" ⟨1, 2⟩))
      (.string "(" ⟨1, 16⟩)
    (ctx.process query).problems.length = query.nodes.length := by
  decide +kernel

end Context

end FilterQuery
