import FilterQuery.Proofs.Fixpoint
import Mathlib.Data.List.Perm.Basic

/-!
# Queries read from right to left

The rules for the two operands of an operator are written down in different
ways, but they say the same of both.  If the operands of every operator change
sides, so do those of the refined query, and the problems stay the same up to
their order and the sides that they name.  The one exception is a pattern
comparison of two string literals, where the side decides which of them is the
pattern.

There are four groups.

* Mirror images.  `Expr.mirror` swaps operands and `Problem.mirror` the side
  that a problem names.  An expression and its mirror image have the same type
  and, up to their order, mirrored nodes (`Expr.nodes_mirror`).
* Operands.  `convertOperand_other` says that an operand fares alike on both
  sides.
* One node.  `ownProblems_mirror` collects this for the problems of a node.
* Queries.  `refine_mirror` and `problems_mirror` carry it over to whole
  expressions, and `process_mirror` to outcomes.
-/

namespace FilterQuery

/-! ## Mirror images -/

/-- The side across from a side. -/
def Side.other : Side → Side
  | .lhs => .rhs
  | .rhs => .lhs

/-- What a problem is called when operands change sides. -/
def Problem.mirror : Problem → Problem
  | .invalidOperand pos side actual allowed => .invalidOperand pos side.other actual allowed
  | p => p

namespace Expr

/-- The expression in which the operands of every operator have changed
sides. -/
def mirror : Expr → Expr
  | .paren inner => .paren inner.mirror
  | .unary op operand => .unary op operand.mirror
  | .binary op lhs rhs => .binary op rhs.mirror lhs.mirror
  | e => e

theorem mirror_of_not_isLogical {e : Expr} (h : e.isLogical = false) : e.mirror = e := by
  cases e with
  | paren | unary | binary => cases h
  | _ => rfl

theorem mirror_of_isLiteral {e : Expr} (h : Context.isLiteral e = true) : e.mirror = e := by
  cases e with
  | string | number | date | glob | regex => rfl
  | _ => cases h

@[simp]
theorem isLogical_mirror (e : Expr) : e.mirror.isLogical = e.isLogical := by
  cases e <;> rfl

/-- The nodes of a mirror image are the mirror images of the nodes. -/
theorem nodes_mirror (e : Expr) : e.mirror.nodes.Perm (e.nodes.map mirror) := by
  induction e with
  | paren inner ih =>
    rw [mirror, nodes, nodes, List.map_append]
    exact ih.append_right _
  | unary op operand ih =>
    rw [mirror, nodes, nodes, List.map_append]
    exact ih.append_right _
  | binary op lhs rhs ihl ihr =>
    rw [mirror, nodes, nodes, List.map_append, List.map_append]
    exact (List.perm_append_comm.trans (ihl.append ihr)).append_right _
  | _ => exact .refl _

end Expr

namespace Context

@[simp]
theorem isStringLiteral_mirror (e : Expr) : isStringLiteral e.mirror = isStringLiteral e := by
  cases e <;> rfl

@[simp]
theorem typeOf_mirror (ctx : Context) (e : Expr) : ctx.typeOf e.mirror = ctx.typeOf e := by
  cases e <;> rfl

/-- An expression that is no truth value is its own mirror image, position
included. -/
theorem mirror_of_typeOf_ne_boolean {ctx : Context} {e : Expr} (h : ctx.typeOf e ≠ .boolean) :
    e.mirror = e := by
  apply Expr.mirror_of_not_isLogical
  by_contra hlogical
  exact h (typeOf_of_isLogical ctx (Bool.of_not_eq_false hlogical))

/-! ## Operands -/

theorem isTextPair_iff (op : Operator) (lhs rhs : Expr) :
    IsTextPair (.binary op lhs rhs) ↔
      op.kind.isPattern = true ∧ isStringLiteral lhs = true ∧ isStringLiteral rhs = true := by
  constructor
  · intro h
    cases h with
    | mk kind =>
      rcases kind with kind | kind <;> simp [kind, OperatorKind.isPattern, isStringLiteral]
  · intro h
    obtain ⟨hpattern, hl, hr⟩ := h
    obtain ⟨raw, pos, rfl⟩ := eq_string_of_isStringLiteral hl
    obtain ⟨pattern, patternPos, rfl⟩ := eq_string_of_isStringLiteral hr
    refine .mk ?_
    cases hkind : op.kind <;> simp_all [OperatorKind.isPattern]

theorem isTextPair_comm {op : Operator} {lhs rhs : Expr} :
    IsTextPair (.binary op rhs lhs) ↔ IsTextPair (.binary op lhs rhs) := by
  rw [isTextPair_iff, isTextPair_iff]
  exact and_congr_right fun _ => and_comm

/-- The sides are alike for an operand, unless it is a string literal across from
another one under a pattern operator. -/
theorem convertOperand_other (ctx : Context) {op : Operator} (side : Side) {other e : Expr}
    (h : ¬IsTextPair (.binary op e other)) :
    ctx.convertOperand op side.other other.mirror e = ctx.convertOperand op side other e := by
  cases hstring : isStringLiteral e with
  | false =>
    rw [convertOperand_of_not_isStringLiteral ctx op _ _ hstring,
      convertOperand_of_not_isStringLiteral ctx op _ _ hstring]
  | true =>
    cases hpattern : op.kind.isPattern with
    | true =>
      have hother : isStringLiteral other = false := by
        simpa [isTextPair_iff, hpattern, hstring] using h
      rw [convertOperand_of_isPattern ctx hpattern (.inr (by simpa using hother)),
        convertOperand_of_isPattern ctx hpattern (.inr hother)]
    | false => simp [convertOperand, hpattern]

theorem convertOperand_events_mirror (ctx : Context) {op : Operator} (side : Side)
    {other e : Expr} (h : ¬IsTextPair (.binary op e other)) :
    (ctx.convertOperand op side.other other.mirror e.mirror).2 =
      (ctx.convertOperand op side other e).2 := by
  cases hstring : isStringLiteral e with
  | false =>
    rw [convertOperand_of_not_isStringLiteral ctx op _ _ hstring,
      convertOperand_of_not_isStringLiteral ctx op _ _ (by simpa using hstring)]
  | true =>
    obtain ⟨raw, pos, rfl⟩ := eq_string_of_isStringLiteral hstring
    exact congrArg Prod.snd (convertOperand_other ctx side h)

/-- What becomes of an operand, if refinement by itself commutes with mirroring. -/
theorem refineOperand_mirror {ctx : Context} {op : Operator} (side : Side) {other e : Expr}
    (hrefine : (ctx.refine e.mirror).expr = (ctx.refine e).expr.mirror)
    (h : ¬IsTextPair (.binary op e other)) :
    ctx.refineOperand op side.other other.mirror e.mirror =
      (ctx.refineOperand op side other e).mirror := by
  cases hstring : isStringLiteral e with
  | false =>
    rw [refineOperand_of_not_isStringLiteral ctx op side other hstring,
      refineOperand_of_not_isStringLiteral ctx op _ _ (by simpa using hstring), hrefine]
  | true =>
    -- A literal is its own mirror image, and so is what it becomes.
    rw [Expr.mirror_of_isLiteral (isLiteral_refineOperand ctx op side other hstring),
      refineOperand_of_isStringLiteral ctx op side other hstring]
    obtain ⟨raw, pos, rfl⟩ := eq_string_of_isStringLiteral hstring
    exact congrArg Prod.fst (convertOperand_other ctx side h)

/-! ## One node -/

theorem checkConnective_comm (op : Operator) (lhs rhs : FieldType) :
    checkConnective op rhs lhs = checkConnective op lhs rhs := by
  simp only [checkConnective, and_comm]

theorem checkValueTypes_comm (op : Operator) (lhs rhs : FieldType) :
    checkValueTypes op rhs lhs = checkValueTypes op lhs rhs := by
  simp only [checkValueTypes, Bool.and_comm]

/-- A check for a problem that names no side. -/
theorem map_mirror_check {c : Prop} [Decidable c] {p : Problem} (h : p.mirror = p) :
    (Event.problems (if c then [] else [.problem p])).map Problem.mirror =
      Event.problems (if c then [] else [.problem p]) := by
  split_ifs
  · rfl
  · simp [h]

theorem map_mirror_checkOperand (op : Operator) (side : Side) (type : FieldType) :
    (Event.problems (checkOperand op side type)).map Problem.mirror =
      Event.problems (checkOperand op side.other type) := by
  rw [checkOperand, checkOperand]
  split
  · rfl
  · split_ifs <;> rfl

/-- No problem of a conversion names a side. -/
theorem map_mirror_convertOperand (ctx : Context) (op : Operator) (side : Side)
    (other e : Expr) :
    (Event.problems (ctx.convertOperand op side other e).2).map Problem.mirror =
      Event.problems (ctx.convertOperand op side other e).2 := by
  cases hstring : isStringLiteral e with
  | false =>
    rw [convertOperand_of_not_isStringLiteral ctx op side other hstring]
    rfl
  | true =>
    obtain ⟨raw, pos, rfl⟩ := eq_string_of_isStringLiteral hstring
    obtain ⟨leaf, events, heq, hstep⟩ := literalStep ctx op side other raw pos
    rw [heq]
    cases hstep <;> rfl

/-- The checks of an operator.  Those of the two operands come in the other
order. -/
theorem problems_checkBinary_mirror (op : Operator) (lhs rhs : FieldType) :
    (Event.problems (checkBinary op rhs lhs)).Perm
      ((Event.problems (checkBinary op lhs rhs)).map Problem.mirror) := by
  rw [checkBinary, checkBinary]
  split_ifs
  · rw [checkConnective_comm, checkConnective, map_mirror_check rfl]
  · rw [checkValueTypes_comm]
    simp only [Event.problems_append, List.map_append, map_mirror_checkOperand, List.append_assoc]
    rw [checkValueTypes, map_mirror_check rfl]
    exact List.perm_append_comm.append_left _
  · exact .refl _

theorem ownProblems_binary_mirror (ctx : Context) {op : Operator} {lhs rhs : Expr}
    (h : ¬IsTextPair (.binary op lhs rhs)) :
    (ctx.ownProblems (Expr.binary op lhs rhs).mirror).Perm
      ((ctx.ownProblems (.binary op lhs rhs)).map Problem.mirror) := by
  have hl : (ctx.convertOperand op .rhs rhs.mirror lhs.mirror).2 =
      (ctx.convertOperand op .lhs rhs lhs).2 := convertOperand_events_mirror ctx .lhs h
  have hr : (ctx.convertOperand op .lhs lhs.mirror rhs.mirror).2 =
      (ctx.convertOperand op .rhs lhs rhs).2 :=
    convertOperand_events_mirror ctx .rhs (mt isTextPair_comm.1 h)
  rw [Expr.mirror, ownProblems_binary, ownProblems_binary, typeOf_mirror, typeOf_mirror, hl, hr,
    List.map_append, List.map_append, map_mirror_convertOperand, map_mirror_convertOperand]
  exact (problems_checkBinary_mirror op _ _).append List.perm_append_comm

/-- A node has the mirror images of its problems when its operands change
sides. -/
theorem ownProblems_mirror (ctx : Context) {e : Expr} (h : ¬IsTextPair e) :
    (ctx.ownProblems e.mirror).Perm ((ctx.ownProblems e).map Problem.mirror) := by
  cases e with
  | identifier name pos =>
    rw [Expr.mirror_of_not_isLogical rfl, ownProblems, ownEvents, resolve]
    cases ctx.schema.typeOf? name <;> exact .refl _
  | paren inner =>
    rw [Expr.mirror, ownProblems, ownProblems, ownEvents, ownEvents, typeOf_mirror]
    split_ifs with hboolean
    · exact .refl _
    · -- The problem stands where the inner expression starts, which is a leaf here.
      rw [mirror_of_typeOf_ne_boolean hboolean]
      exact .refl _
  | unary op operand =>
    rw [Expr.mirror, ownProblems, ownProblems, ownEvents, ownEvents, typeOf_mirror, checkUnary]
    split_ifs <;> exact .refl _
  | binary op lhs rhs => exact ownProblems_binary_mirror ctx h
  | _ => exact .refl _

/-! ## Queries -/

/-- Refinement commutes with mirroring. -/
theorem refine_mirror (ctx : Context) {e : Expr} (h : ∀ node ∈ e.nodes, ¬IsTextPair node) :
    (ctx.refine e.mirror).expr = (ctx.refine e).expr.mirror := by
  induction e with
  | paren inner ih =>
    have hinner := ih (Expr.forall_mem_nodes_paren.1 h).1
    simp only [Expr.mirror, refine, hinner]
  | unary op operand ih =>
    have hoperand := ih (Expr.forall_mem_nodes_unary.1 h).1
    simp only [Expr.mirror, refine, hoperand]
  | binary op lhs rhs ihl ihr =>
    obtain ⟨hlhs, hrhs, hnode⟩ := Expr.forall_mem_nodes_binary.1 h
    rw [Expr.mirror, refine_binary_expr, refine_binary_expr, Expr.mirror,
      ← refineOperand_mirror .lhs (ihl hlhs) hnode,
      ← refineOperand_mirror .rhs (ihr hrhs) (mt isTextPair_comm.1 hnode)]
    rfl
  | _ => rfl

/-- The problems of a mirror image, node by node. -/
theorem problems_mirror (ctx : Context) {e : Expr} (h : ∀ node ∈ e.nodes, ¬IsTextPair node) :
    (ctx.problems e.mirror).Perm ((ctx.problems e).map Problem.mirror) := by
  rw [problems_eq_flatMap, problems_eq_flatMap, List.map_flatMap]
  have hnodes : (e.mirror.nodes.flatMap ctx.ownProblems).Perm
      (e.nodes.flatMap fun node => ctx.ownProblems node.mirror) := by
    rw [← List.flatMap_map Expr.mirror]
    exact e.nodes_mirror.flatMap_right _
  exact hnodes.trans <|
    List.Perm.flatMap_left _ fun node hnode => ctx.ownProblems_mirror (h node hnode)

/-- Left and right are alike.  If the operands of all operators of a query change
sides, those of the refined query do, and the problems are the same in some
order, but for the sides that they name.  Pattern comparisons of two string
literals are left out, since they take the right one for the pattern. -/
theorem process_mirror (ctx : Context) (query : Expr)
    (h : ¬∃ node ∈ query.nodes, IsTextPair node) :
    (ctx.process query.mirror).expr = (ctx.process query).expr.mirror ∧
      (ctx.process query.mirror).problems.Perm
        ((ctx.process query).problems.map Problem.mirror) := by
  have hnodes : ∀ node ∈ query.nodes, ¬IsTextPair node := by simpa using h
  cases hlogical : query.isLogical with
  | true =>
    obtain ⟨hexpr, hproblems⟩ := process_of_isLogical ctx hlogical
    obtain ⟨hexpr', hproblems'⟩ :=
      process_of_isLogical ctx (query.isLogical_mirror.trans hlogical)
    rw [hexpr, hproblems, hexpr', hproblems']
    exact ⟨ctx.refine_mirror hnodes, ctx.problems_mirror hnodes⟩
  | false =>
    obtain ⟨hexpr, hproblems⟩ := process_of_not_isLogical ctx hlogical
    rw [Expr.mirror_of_not_isLogical hlogical, hexpr, hproblems,
      Expr.mirror_of_not_isLogical hlogical]
    exact ⟨rfl, .refl _⟩

/-- The theorem at `Created >= "2017-07-16" AND (Size GLOB Created OR "(" REGEXP
Size)`: the date and its literal change sides, and so do the three operands that
are no texts. -/
theorem process_mirror_of_three_operands :
    let ctx : Context :=
      { schema := (FieldTable.ofList [("Created", .date), ("Size", .number)]).schema
        zone := ZoneTable.zone ⟨0, []⟩ }
    let query := Expr.join .and ⟨1, 25⟩
      (.join .ge ⟨1, 9⟩ (.identifier "Created" ⟨1, 1⟩) (.string "2017-07-16" ⟨1, 12⟩))
      (.paren (.join .or ⟨1, 48⟩
        (.join .glob ⟨1, 35⟩ (.identifier "Size" ⟨1, 30⟩) (.identifier "Created" ⟨1, 40⟩))
        (.join .regexp ⟨1, 55⟩ (.string "(" ⟨1, 51⟩) (.identifier "Size" ⟨1, 62⟩))))
    (¬∃ node ∈ query.nodes, IsTextPair node) ∧
      (ctx.process query).problems.map Problem.mirror =
        [.invalidOperand ⟨1, 35⟩ .rhs .number [.string],
          .invalidOperand ⟨1, 35⟩ .lhs .date [.string],
          .invalidOperand ⟨1, 55⟩ .lhs .number [.string],
          .invalidRegex ⟨1, 51⟩ "(" "regex parse error:\n    (\n    ^\nerror: unclosed group"] ∧
      (ctx.process query.mirror).expr = (ctx.process query).expr.mirror ∧
      (ctx.process query.mirror).problems.Perm
        ((ctx.process query).problems.map Problem.mirror) := by
  intro ctx query
  have h : ¬∃ node ∈ query.nodes, IsTextPair node := by
    rintro ⟨node, hnode, hpair⟩
    cases hpair
    simp [query, Expr.join, Expr.nodes] at hnode
  exact ⟨h, by decide +kernel, process_mirror ctx query h⟩

-- Two string literals are told apart by their sides: `"(" REGEXP "b"` has no problem, and
-- `"b" REGEXP "("` has one.
example :
    let ctx : Context := { schema := ⟨fun _ => none⟩, zone := ZoneTable.zone ⟨0, []⟩ }
    let query := Expr.join .regexp ⟨1, 5⟩ (.string "(" ⟨1, 1⟩) (.string "b" ⟨1, 12⟩)
    (ctx.process query).problems.length = 0 ∧ (ctx.process query.mirror).problems.length = 1 := by
  decide +kernel

end Context

end FilterQuery
