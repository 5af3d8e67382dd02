import FilterQuery.Proofs.Grammar
import FilterQuery.Proofs.RefinedTree

/-!
# The order of problems

Refinement collects problems while it walks a query.  This module says which
problems these are and in which order they come, without mentioning the walk.

There are four groups.

* One node.  `Context.nodeProblems` are the problems of a node by itself.
  They are read off the node, its immediate parts and the types of these, and
  `ownProblems_eq_nodeProblems` shows that refinement finds no others.
* Tokens.  `Expr.tokens` are the positions of the tokens of an expression.
  Every problem stands at one of them (`exists_token_of_mem_nodeProblems`).
* Places.  `Precedes` orders the paths of an expression: parts come before
  what they are part of, and what is on the left before what is on the right.
  `Expr.placedNodes` lists the nodes with their paths in this order.
* Queries.  `Context.placedProblems` are the problems with the paths of the
  nodes that have them.
-/

namespace FilterQuery

namespace Context

/-! ## One node -/

/-- The problem of a text that is compared with a date and is none. -/
def dateProblems (ctx : Context) : Expr → List Problem
  | .string raw pos =>
    if (DateText.read? ctx.zone ctx.settings raw).isNone then
      [.invalidDate pos raw (DatePattern.describe ctx.settings.dateFormat)
        (DatePattern.describe ctx.settings.dateTimeFormat)]
    else []
  | _ => []

/-- The problem of a text that is taken for a regular expression and is none. -/
def regexProblems : Expr → List Problem
  | .string raw pos =>
    match Regex.compile raw with
    | .ok _ => []
    | .error rejection => [.invalidRegex pos raw (rejection.reason raw)]
  | _ => []

/-- The problem of an operand that cannot be matched with a pattern. -/
def operandProblems (op : Operator) (side : Side) (type : FieldType) : List Problem :=
  if type = .number ∨ type = .date then [.invalidOperand op.pos side type [.string]] else []

/-- The problems of a comparison: with its operands as values, then with their
types from left to right, then with the literal that it converts. -/
def comparisonProblems (ctx : Context) (op : Operator) (lhs rhs : Expr) : List Problem :=
  (if ctx.typeOf lhs = .boolean ∨ ctx.typeOf rhs = .boolean then [.comparisonOfBoolean op.pos]
    else []) ++
  (match op.kind with
    | .glob =>
      operandProblems op .lhs (ctx.typeOf lhs) ++ operandProblems op .rhs (ctx.typeOf rhs)
    | .regexp =>
      operandProblems op .lhs (ctx.typeOf lhs) ++ operandProblems op .rhs (ctx.typeOf rhs) ++
        regexProblems (patternOperand lhs rhs)
    | _ =>
      (if ctx.typeOf rhs = .date then ctx.dateProblems lhs else []) ++
        (if ctx.typeOf lhs = .date then ctx.dateProblems rhs else []))

/-- The problems of a node, apart from those of its parts. -/
def nodeProblems (ctx : Context) : Expr → List Problem
  | .identifier name pos =>
    if (ctx.schema.typeOf? name).isNone then [.unknownField pos name] else []
  | .paren inner =>
    if ctx.typeOf inner ≠ .boolean then [.parenNotBoolean inner.pos] else []
  | .unary op operand =>
    if op.kind ≠ .not then [.misplacedOperator op.pos op.token .unary]
    else if ctx.typeOf operand ≠ .boolean then [.negationNotBoolean op.pos]
    else []
  | .binary op lhs rhs =>
    match op.kind with
    | .and | .or =>
      if ctx.typeOf lhs ≠ .boolean ∨ ctx.typeOf rhs ≠ .boolean then
        [.connectiveNotBoolean op.pos]
      else []
    | .not => [.misplacedOperator op.pos op.token .binary]
    | _ => ctx.comparisonProblems op lhs rhs
  | _ => []

theorem problems_convertOperand_of_plain (ctx : Context) {op : Operator}
    (hop : op.kind ∈ plainKinds) (side : Side) (other e : Expr) :
    Event.problems (ctx.convertOperand op side other e).2 =
      if ctx.typeOf other = .date then ctx.dateProblems e else [] := by
  cases hstring : isStringLiteral e with
  | false =>
    rw [convertOperand_of_not_isStringLiteral ctx op side other hstring]
    cases e with
    | string => cases hstring
    | _ => simp [dateProblems]
  | true =>
    obtain ⟨raw, pos, rfl⟩ := eq_string_of_isStringLiteral hstring
    obtain ⟨leaf, events, heq, hstep⟩ := literalStep ctx op side other raw pos
    rw [heq]
    cases hstep with
    | kept plain => simp [plain hop]
    | toDate _ date reads => simp [date, dateProblems, reads]
    | notDate _ date fails => simp [date, dateProblems, fails]
    | toGlob kind | toRegex kind | notRegex kind => simp [kind, plainKinds] at hop

theorem problems_convertOperand_of_glob (ctx : Context) {op : Operator}
    (hop : op.kind = .glob) (side : Side) (other e : Expr) :
    Event.problems (ctx.convertOperand op side other e).2 = [] := by
  simp [convertOperand_problems_eq_nil_iff, hop, plainKinds]

/-- A regular expression match reports at most its pattern. -/
theorem problems_convertOperand_of_regexp (ctx : Context) {op : Operator}
    (hop : op.kind = .regexp) {side : Side} {other : Expr}
    (hside : side = .rhs ∨ isStringLiteral other = false) (e : Expr) :
    Event.problems (ctx.convertOperand op side other e).2 = regexProblems e := by
  rw [convertOperand_of_isPattern ctx (by rw [hop]; rfl) hside, hop]
  cases e with
  | string raw pos =>
    cases hcompile : Regex.compile raw <;>
      simp [convertPattern, Conversion.toRegex, regexProblems, hcompile]
  | _ => rfl

theorem problems_convertOperand_regexp_append (ctx : Context) {op : Operator}
    (hop : op.kind = .regexp) (lhs rhs : Expr) :
    Event.problems (ctx.convertOperand op .lhs rhs lhs).2 ++
        Event.problems (ctx.convertOperand op .rhs lhs rhs).2 =
      regexProblems (patternOperand lhs rhs) := by
  rw [problems_convertOperand_of_regexp ctx hop (.inl rfl)]
  cases hr : isStringLiteral rhs with
  | true =>
    -- The right operand is the pattern, and the left one is not touched.
    have hleft : ctx.convertOperand op .lhs rhs lhs = (lhs, []) := by
      simp [convertOperand, hop, OperatorKind.isPattern, hr]
    obtain ⟨raw, pos, rfl⟩ := eq_string_of_isStringLiteral hr
    rw [hleft]
    cases lhs <;> rfl
  | false =>
    rw [problems_convertOperand_of_regexp ctx hop (.inr hr)]
    cases rhs with
    | string => cases hr
    | _ => cases lhs <;> simp [patternOperand, regexProblems]

theorem problems_checkValueTypes (op : Operator) (lhs rhs : FieldType) :
    Event.problems (checkValueTypes op lhs rhs) =
      if lhs = .boolean ∨ rhs = .boolean then [.comparisonOfBoolean op.pos] else [] := by
  cases lhs <;> cases rhs <;> rfl

theorem problems_checkOperand {op : Operator} (hop : op.kind.isPattern = true) (side : Side)
    (type : FieldType) :
    Event.problems (checkOperand op side type) = operandProblems op side type := by
  have hallowed : op.kind.allowedTypes? = some [.string] := by
    cases h : op.kind <;> simp_all [OperatorKind.isPattern, OperatorKind.allowedTypes?]
  rw [checkOperand, hallowed]
  cases type <;> rfl

theorem ownProblems_eq_comparisonProblems (ctx : Context) {op : Operator} (lhs rhs : Expr)
    (hop : op.kind.isComparison = true) :
    ctx.ownProblems (.binary op lhs rhs) = ctx.comparisonProblems op lhs rhs := by
  have hlogical : op.kind.isLogical = false := by
    cases h : op.kind <;> simp_all [OperatorKind.isLogical, OperatorKind.isComparison]
  rw [ownProblems_binary, checkBinary, hlogical, hop, comparisonProblems]
  simp only [Bool.false_eq_true, if_false, if_true, Event.problems_append,
    problems_checkValueTypes, List.append_assoc]
  congr 1
  by_cases hplain : op.kind ∈ plainKinds
  · have hpattern := (mem_plainKinds_iff.1 hplain).2
    rw [checkOperand_plain op _ _ hpattern, checkOperand_plain op _ _ hpattern,
      problems_convertOperand_of_plain ctx hplain, problems_convertOperand_of_plain ctx hplain]
    cases hkind : op.kind with
    | glob | regexp => simp [hkind, plainKinds] at hplain
    | _ => rfl
  · have hpattern : op.kind.isPattern = true := by
      by_contra hpattern
      exact hplain (mem_plainKinds_iff.2 ⟨hop, Bool.of_not_eq_true hpattern⟩)
    rw [problems_checkOperand hpattern, problems_checkOperand hpattern]
    cases hkind : op.kind with
    | glob =>
      rw [problems_convertOperand_of_glob ctx hkind, problems_convertOperand_of_glob ctx hkind]
      simp
    | regexp => rw [problems_convertOperand_regexp_append ctx hkind]
    | _ => simp [hkind, OperatorKind.isPattern] at hpattern

/-- Refinement finds exactly these problems with a node. -/
theorem ownProblems_eq_nodeProblems (ctx : Context) (e : Expr) :
    ctx.ownProblems e = ctx.nodeProblems e := by
  cases e with
  | identifier name pos =>
    rw [ownProblems, ownEvents, resolve, nodeProblems]
    cases ctx.schema.typeOf? name <;> rfl
  | paren inner =>
    rw [ownProblems, ownEvents, nodeProblems]
    split_ifs <;> simp_all
  | unary op operand =>
    rw [ownProblems, ownEvents, checkUnary, nodeProblems]
    cases hkind : op.kind <;> simp [OperatorKind.isUnary]
    split_ifs <;> rfl
  | binary op lhs rhs =>
    rw [nodeProblems]
    cases hkind : op.kind with
    | and | or =>
      rw [ownProblems_binary, convertOperand_of_not_isComparison ctx (by rw [hkind]; rfl),
        convertOperand_of_not_isComparison ctx (by rw [hkind]; rfl), checkBinary,
        if_pos (by rw [hkind]; rfl), checkConnective]
      split_ifs <;> simp_all
    | not =>
      rw [ownProblems_binary, convertOperand_of_not_isComparison ctx (by rw [hkind]; rfl),
        convertOperand_of_not_isComparison ctx (by rw [hkind]; rfl)]
      simp [checkBinary, hkind, OperatorKind.isLogical, OperatorKind.isComparison]
    | _ => exact ownProblems_eq_comparisonProblems ctx lhs rhs (by rw [hkind]; rfl)
  | _ => rfl

end Context

/-! ## Tokens -/

namespace Expr

/-- The positions of the tokens of an expression, from left to right. -/
def tokens : Expr → List Position
  | identifier _ pos | string _ pos | number _ pos | date _ pos | glob _ pos | regex _ pos => [pos]
  | unary op operand => op.pos :: operand.tokens
  | binary op lhs rhs => lhs.tokens ++ op.pos :: rhs.tokens
  | paren inner => inner.tokens

theorem pos_mem_tokens (e : Expr) : e.pos ∈ e.tokens := by
  induction e with
  | paren inner ih => exact ih
  | binary op lhs rhs ihl _ => exact List.mem_append_left _ ihl
  | _ => exact List.mem_cons_self

theorem tokens_subset_of_mem_nodes {e : Expr} : ∀ node ∈ e.nodes, node.tokens ⊆ e.tokens := by
  induction e with
  | paren inner ih => exact forall_mem_nodes_paren.2 ⟨ih, List.Subset.refl _⟩
  | unary op operand ih =>
    refine forall_mem_nodes_unary.2 ⟨?_, List.Subset.refl _⟩
    intro node hnode
    exact List.subset_cons_of_subset _ (ih node hnode)
  | binary op lhs rhs ihl ihr =>
    refine forall_mem_nodes_binary.2 ⟨?_, ?_, List.Subset.refl _⟩
    · intro node hnode
      exact List.subset_append_of_subset_left _ (ihl node hnode)
    · intro node hnode
      exact List.subset_append_of_subset_right _ (List.subset_cons_of_subset _ (ihr node hnode))
  | _ => exact List.forall_mem_singleton.2 (List.Subset.refl _)

end Expr

namespace Context

/-- A check that reports one problem at most reports this one. -/
theorem eq_of_mem_check {c : Prop} [Decidable c] {p q : Problem}
    (h : p ∈ if c then [q] else []) : p = q :=
  List.mem_singleton.1 (List.mem_ite_nil_right.1 h).2

theorem pos?_of_mem_dateProblems {ctx : Context} {e : Expr} {p : Problem}
    (h : p ∈ ctx.dateProblems e) : p.pos? = some e.pos := by
  cases e with
  | string raw pos =>
    rw [eq_of_mem_check h]
    rfl
  | _ => cases h

theorem pos?_of_mem_regexProblems {e : Expr} {p : Problem} (h : p ∈ regexProblems e) :
    p.pos? = some e.pos := by
  cases e with
  | string raw pos =>
    rw [regexProblems] at h
    split at h
    · cases h
    · rw [List.mem_singleton.1 h]
      rfl
  | _ => cases h

theorem pos?_of_mem_operandProblems {op : Operator} {side : Side} {type : FieldType} {p : Problem}
    (h : p ∈ operandProblems op side type) : p.pos? = some op.pos := by
  rw [eq_of_mem_check h]
  rfl

theorem patternOperand_cases (lhs rhs : Expr) :
    patternOperand lhs rhs = lhs ∨ patternOperand lhs rhs = rhs := by
  cases lhs <;> cases rhs <;> simp [patternOperand]

/-- A comparison reports its operator or one of its operands. -/
theorem pos?_of_mem_comparisonProblems {ctx : Context} {op : Operator} {lhs rhs : Expr}
    {p : Problem} (h : p ∈ ctx.comparisonProblems op lhs rhs) :
    p.pos? = some op.pos ∨ p.pos? = some lhs.pos ∨ p.pos? = some rhs.pos := by
  rw [comparisonProblems, List.mem_append] at h
  rcases h with h | h
  · rw [eq_of_mem_check h]
    exact .inl rfl
  · split at h
    · rcases List.mem_append.1 h with h | h <;> exact .inl (pos?_of_mem_operandProblems h)
    · rcases List.mem_append.1 h with h | h
      · rcases List.mem_append.1 h with h | h <;> exact .inl (pos?_of_mem_operandProblems h)
      · rw [pos?_of_mem_regexProblems h]
        rcases patternOperand_cases lhs rhs with heq | heq <;> simp [heq]
    · rcases List.mem_append.1 h with h | h <;> split_ifs at h
      · exact .inr (.inl (pos?_of_mem_dateProblems h))
      · cases h
      · exact .inr (.inr (pos?_of_mem_dateProblems h))
      · cases h

/-- A problem of a node stands at one of its tokens. -/
theorem exists_token_of_mem_nodeProblems {ctx : Context} {e : Expr} {p : Problem}
    (h : p ∈ ctx.nodeProblems e) : ∃ pos ∈ e.tokens, p.pos? = some pos := by
  cases e with
  | identifier name pos =>
    rw [eq_of_mem_check h]
    exact ⟨pos, List.mem_cons_self, rfl⟩
  | paren inner =>
    rw [eq_of_mem_check h]
    exact ⟨inner.pos, inner.pos_mem_tokens, rfl⟩
  | unary op operand =>
    rw [nodeProblems] at h
    split_ifs at h
    · rw [List.mem_singleton.1 h]
      exact ⟨op.pos, List.mem_cons_self, rfl⟩
    · rw [List.mem_singleton.1 h]
      exact ⟨op.pos, List.mem_cons_self, rfl⟩
    · cases h
  | binary op lhs rhs =>
    have hop : op.pos ∈ (Expr.binary op lhs rhs).tokens := by simp [Expr.tokens]
    have hl : lhs.pos ∈ (Expr.binary op lhs rhs).tokens := by
      simp [Expr.tokens, lhs.pos_mem_tokens]
    have hr : rhs.pos ∈ (Expr.binary op lhs rhs).tokens := by
      simp [Expr.tokens, rhs.pos_mem_tokens]
    rw [nodeProblems] at h
    split at h
    · rw [eq_of_mem_check h]
      exact ⟨op.pos, hop, rfl⟩
    · rw [eq_of_mem_check h]
      exact ⟨op.pos, hop, rfl⟩
    · rw [List.mem_singleton.1 h]
      exact ⟨op.pos, hop, rfl⟩
    · rcases pos?_of_mem_comparisonProblems h with hpos | hpos | hpos
      · exact ⟨op.pos, hop, hpos⟩
      · exact ⟨lhs.pos, hl, hpos⟩
      · exact ⟨rhs.pos, hr, hpos⟩
  | _ => cases h

end Context

/-! ## Places -/

/-- The order of the parts of an expression by their paths. -/
inductive Precedes : List Branch → List Branch → Prop where
  /-- A part comes before the whole. -/
  | whole {branch path} : Precedes (branch :: path) []
  /-- What is in the left operand comes before what is in the right one. -/
  | sides {path path'} : Precedes (.lhs :: path) (.rhs :: path')
  /-- Inside of a part the same order holds. -/
  | inside {branch path path'} (h : Precedes path path') :
      Precedes (branch :: path) (branch :: path')

theorem Precedes.irrefl (path : List Branch) : ¬Precedes path path := by
  induction path with
  | nil => nofun
  | cons branch path ih =>
    intro h
    cases h with
    | inside h => exact ih h

namespace Expr

/-- The nodes of a part, with their paths from the whole. -/
def placedUnder (branch : Branch) (nodes : List (List Branch × Expr)) :
    List (List Branch × Expr) :=
  nodes.map fun x => (branch :: x.1, x.2)

/-- The nodes of an expression with their paths: the parts of a left operand
before those of the right one, and operands before their operator. -/
def placedNodes : Expr → List (List Branch × Expr)
  | paren inner => placedUnder .inner inner.placedNodes ++ [([], .paren inner)]
  | unary op operand => placedUnder .operand operand.placedNodes ++ [([], .unary op operand)]
  | binary op lhs rhs =>
    placedUnder .lhs lhs.placedNodes ++ placedUnder .rhs rhs.placedNodes ++
      [([], .binary op lhs rhs)]
  | e => [([], e)]

theorem map_snd_placedUnder (branch : Branch) (nodes : List (List Branch × Expr)) :
    (placedUnder branch nodes).map Prod.snd = nodes.map Prod.snd := by
  simp [placedUnder]

/-- Without the paths these are the nodes. -/
theorem map_snd_placedNodes (e : Expr) : e.placedNodes.map Prod.snd = e.nodes := by
  induction e with
  | paren inner ih => simp [placedNodes, nodes, map_snd_placedUnder, ih]
  | unary op operand ih => simp [placedNodes, nodes, map_snd_placedUnder, ih]
  | binary op lhs rhs ihl ihr => simp [placedNodes, nodes, map_snd_placedUnder, ihl, ihr]
  | _ => rfl

theorem mem_placedUnder_iff {branch : Branch} {nodes : List (List Branch × Expr)}
    {path : List Branch} {node : Expr} :
    (path, node) ∈ placedUnder branch nodes ↔
      ∃ rest, path = branch :: rest ∧ (rest, node) ∈ nodes := by
  simp only [placedUnder, List.mem_map, Prod.mk.injEq, Prod.exists]
  constructor
  · rintro ⟨rest, part, h, rfl, rfl⟩
    exact ⟨rest, rfl, h⟩
  · rintro ⟨rest, rfl, h⟩
    exact ⟨rest, node, h, rfl, rfl⟩

/-- Every place is listed, with the node that stands there. -/
theorem mem_placedNodes_iff {e node : Expr} {path : List Branch} :
    (path, node) ∈ e.placedNodes ↔ e.at? path = some node := by
  induction e generalizing path with
  | paren inner ih =>
    rw [placedNodes, List.mem_append, mem_placedUnder_iff]
    cases path with
    | nil => simp [at?, eq_comm]
    | cons branch path => cases branch <;> simp [at?, child?, ih]
  | unary op operand ih =>
    rw [placedNodes, List.mem_append, mem_placedUnder_iff]
    cases path with
    | nil => simp [at?, eq_comm]
    | cons branch path => cases branch <;> simp [at?, child?, ih]
  | binary op lhs rhs ihl ihr =>
    rw [placedNodes, List.mem_append, List.mem_append, mem_placedUnder_iff, mem_placedUnder_iff]
    cases path with
    | nil => simp [at?, eq_comm]
    | cons branch path => cases branch <;> simp [at?, child?, ihl, ihr]
  | _ => cases path <;> simp [placedNodes, at?, child?, eq_comm]

/-- The places are listed in their order. -/
def IsOrdered (nodes : List (List Branch × Expr)) : Prop :=
  nodes.Pairwise fun x y => Precedes x.1 y.1

theorem IsOrdered.placedUnder {nodes : List (List Branch × Expr)} (h : IsOrdered nodes)
    (branch : Branch) : IsOrdered (placedUnder branch nodes) :=
  List.pairwise_map.2 (h.imp .inside)

theorem precedes_root_of_mem_placedUnder {branch : Branch} {nodes : List (List Branch × Expr)}
    {x : List Branch × Expr} (h : x ∈ placedUnder branch nodes) : Precedes x.1 [] := by
  obtain ⟨y, _, rfl⟩ := List.mem_map.1 h
  exact .whole

/-- The root comes after its parts. -/
theorem IsOrdered.concat_root {nodes : List (List Branch × Expr)} (h : IsOrdered nodes)
    (hparts : ∀ x ∈ nodes, Precedes x.1 []) (e : Expr) : IsOrdered (nodes ++ [([], e)]) := by
  refine List.pairwise_append.2 ⟨h, List.pairwise_singleton _ _, ?_⟩
  intro x hx y hy
  rw [List.mem_singleton.1 hy]
  exact hparts x hx

theorem isOrdered_placedNodes (e : Expr) : IsOrdered e.placedNodes := by
  induction e with
  | paren inner ih =>
    exact (ih.placedUnder _).concat_root (fun x hx => precedes_root_of_mem_placedUnder hx) _
  | unary op operand ih =>
    exact (ih.placedUnder _).concat_root (fun x hx => precedes_root_of_mem_placedUnder hx) _
  | binary op lhs rhs ihl ihr =>
    refine IsOrdered.concat_root (List.pairwise_append.2
      ⟨ihl.placedUnder _, ihr.placedUnder _, ?_⟩) ?_ _
    · intro x hx y hy
      obtain ⟨x, _, rfl⟩ := List.mem_map.1 hx
      obtain ⟨y, _, rfl⟩ := List.mem_map.1 hy
      exact .sides
    · intro x hx
      rcases List.mem_append.1 hx with hx | hx <;> exact precedes_root_of_mem_placedUnder hx
  | _ => exact List.pairwise_singleton _ _

/-- At most one node is listed for a place, since no place precedes itself. -/
theorem filter_placedNodes (e : Expr) (path : List Branch) :
    e.placedNodes.filter (·.1 = path) = ((e.at? path).map (path, ·)).toList := by
  have hmem : ∀ node, (path, node) ∈ e.placedNodes.filter (·.1 = path) ↔
      e.at? path = some node := by
    intro node
    simp [mem_placedNodes_iff]
  have hordered : IsOrdered (e.placedNodes.filter (·.1 = path)) :=
    e.isOrdered_placedNodes.filter _
  have hpath : ∀ x ∈ e.placedNodes.filter (·.1 = path), x.1 = path := by
    intro x hx
    simpa using (List.mem_filter.1 hx).2
  generalize e.placedNodes.filter (·.1 = path) = nodes at hmem hordered hpath
  cases nodes with
  | nil =>
    have hnone : e.at? path = none := by
      rw [Option.eq_none_iff_forall_not_mem]
      intro node hnode
      cases (hmem node).2 hnode
    rw [hnone]
    rfl
  | cons x rest =>
    obtain ⟨path', node⟩ := x
    obtain rfl : path' = path := hpath _ List.mem_cons_self
    rw [(hmem node).1 List.mem_cons_self]
    cases rest with
    | nil => rfl
    | cons y rest =>
      have hxy := List.rel_of_pairwise_cons hordered List.mem_cons_self
      rw [hpath y (by simp)] at hxy
      exact absurd hxy (Precedes.irrefl path')

end Expr

/-! ## Queries -/

namespace Context

/-- The problems of an expression, each with the path of the node that has
it. -/
def placedProblems (ctx : Context) (e : Expr) : List (List Branch × Problem) :=
  e.placedNodes.flatMap fun x => (ctx.nodeProblems x.2).map (x.1, ·)

theorem map_snd_placedProblems (ctx : Context) (e : Expr) :
    (ctx.placedProblems e).map Prod.snd = e.nodes.flatMap ctx.nodeProblems := by
  rw [placedProblems, List.map_flatMap, ← e.map_snd_placedNodes, List.flatMap_map]
  simp [Function.comp_def]

theorem pairwise_placedProblems (ctx : Context) (e : Expr) :
    (ctx.placedProblems e).Pairwise fun x y => x.1 = y.1 ∨ Precedes x.1 y.1 := by
  rw [placedProblems, List.pairwise_flatMap]
  constructor
  · intro x _
    rw [List.pairwise_map]
    exact List.pairwise_of_forall fun _ _ => .inl rfl
  · refine e.isOrdered_placedNodes.imp ?_
    intro x y hxy p hp q hq
    obtain ⟨p, _, rfl⟩ := List.mem_map.1 hp
    obtain ⟨q, _, rfl⟩ := List.mem_map.1 hq
    exact .inr hxy

theorem filter_placedProblems (ctx : Context) (e : Expr) (path : List Branch) :
    ((ctx.placedProblems e).filter (·.1 = path)).map Prod.snd =
      ((e.at? path).map ctx.nodeProblems).getD [] := by
  have hentry : ∀ x : List Branch × Expr,
      ((((ctx.nodeProblems x.2).map (x.1, ·)).filter (·.1 = path)).map Prod.snd) =
        if x.1 = path then ctx.nodeProblems x.2 else [] := by
    intro x
    by_cases hx : x.1 = path <;> simp [List.filter_map, Function.comp_def, hx]
  calc ((ctx.placedProblems e).filter (·.1 = path)).map Prod.snd
      = e.placedNodes.flatMap (fun x => if x.1 = path then ctx.nodeProblems x.2 else []) := by
        simp only [placedProblems, List.filter_flatMap, List.map_flatMap, hentry]
    _ = (e.placedNodes.filter (·.1 = path)).flatMap (fun x => ctx.nodeProblems x.2) := by
        induction e.placedNodes with
        | nil => rfl
        | cons x nodes ih => by_cases hx : x.1 = path <;> simp [hx, ih]
    _ = ((e.at? path).map ctx.nodeProblems).getD [] := by
        rw [Expr.filter_placedNodes]
        cases e.at? path <;> simp

/-- The problems of a query.  They are those of its nodes, one node after the
other from the leaves up; each stands at a token of the query.  Placed at
their nodes they are in the order of the places, and each place has the
problems of the node there. -/
theorem process_problems_in_postOrder (ctx : Context) (query : Expr)
    (h : query.isLogical = true) :
    (ctx.process query).problems = query.nodes.flatMap ctx.nodeProblems ∧
      (∀ p ∈ (ctx.process query).problems, ∃ pos ∈ query.tokens, p.pos? = some pos) ∧
      ∃ placed : List (List Branch × Problem),
        placed.map Prod.snd = (ctx.process query).problems ∧
        placed.Pairwise (fun x y => x.1 = y.1 ∨ Precedes x.1 y.1) ∧
        ∀ path, (placed.filter (·.1 = path)).map Prod.snd =
          ((query.at? path).map ctx.nodeProblems).getD [] := by
  have hproblems : (ctx.process query).problems = query.nodes.flatMap ctx.nodeProblems := by
    rw [(process_of_isLogical ctx h).2, problems_eq_flatMap,
      funext (ownProblems_eq_nodeProblems ctx)]
  rw [hproblems]
  refine ⟨rfl, ?_, ctx.placedProblems query, map_snd_placedProblems ctx query,
    pairwise_placedProblems ctx query, filter_placedProblems ctx query⟩
  intro p hp
  obtain ⟨node, hnode, hp⟩ := List.mem_flatMap.1 hp
  obtain ⟨pos, hpos, heq⟩ := exists_token_of_mem_nodeProblems hp
  exact ⟨pos, Expr.tokens_subset_of_mem_nodes _ hnode hpos, heq⟩

/-- The theorem at `(Summary) AND NOT (Created > "soon" OR Bogus REGEXP "*")`, where
both operators below the `OR` have a problem and one of them also has an
operand with one. -/
theorem problems_in_postOrder_of_four :
    let ctx : Context :=
      { schema := (FieldTable.ofList [("Created", .date), ("Summary", .string)]).schema
        zone := ZoneTable.zone ⟨0, []⟩ }
    let query := Expr.join .and ⟨1, 11⟩ (.paren (.identifier "Summary" ⟨1, 2⟩))
      (.negation ⟨1, 15⟩ (.paren (.join .or ⟨1, 36⟩
        (.join .gt ⟨1, 28⟩ (.identifier "Created" ⟨1, 20⟩) (.string "soon" ⟨1, 30⟩))
        (.join .regexp ⟨1, 45⟩ (.identifier "Bogus" ⟨1, 39⟩) (.string "*" ⟨1, 52⟩)))))
    query.isLogical = true ∧
      query.nodes.flatMap ctx.nodeProblems =
        [.parenNotBoolean ⟨1, 2⟩,
          .invalidDate ⟨1, 30⟩ "soon" "YYYY-MM-DD" "YYYY-MM-DD HH:MM:SS",
          .unknownField ⟨1, 39⟩ "Bogus",
          .invalidRegex ⟨1, 52⟩ "*"
            "regex parse error:\n    *\n    ^\nerror: repetition operator missing expression"] ∧
      ∀ p ∈ (ctx.process query).problems, ∃ pos ∈ query.tokens, p.pos? = some pos := by
  intro ctx query
  obtain ⟨hproblems, htokens, -⟩ := process_problems_in_postOrder ctx query rfl
  refine ⟨rfl, ?_, htokens⟩
  rw [← hproblems]
  decide +kernel

end Context

end FilterQuery
