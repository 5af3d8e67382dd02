import FilterQuery.Proofs.Node
import FilterQuery.Zone.Table
import Mathlib.Tactic.ByContra

/-!
# The refined tree

This module says what the refinement of a query looks like, in terms of the
query alone.  Parts of an expression are named by the path that leads to
them, so that a part of the query can be compared with the part of the
refined query at the same place.

There are three groups.

* Paths.  `Expr.at?` follows a path from the root, and `Expr.label` is what
  a part is apart from its own parts.  Labels at all paths make up the whole
  expression (`Expr.eq_of_label_at?`).
* Literals.  `Context.Converts` lists the conversions of a string literal by
  the operator above it, its side and the operand across from it.
  `convertOperand_string_eq_iff` says that refinement performs exactly these.
* Trees.  `at?_refine_concat` finds every part of the refined expression.
  `Context.IsRefinement` collects what this means for nodes, literals and
  positions; it holds of the refined expression (`refine_isRefinement`) and
  of no other (`IsRefinement.unique`).
-/

namespace FilterQuery

/-! ## Paths -/

/-- A way from an expression to one of its immediate parts. -/
inductive Branch where
  | inner
  | operand
  | lhs
  | rhs
  deriving DecidableEq, Repr

namespace Expr

/-- The part of an expression at the end of a branch. -/
def child? : Expr → Branch → Option Expr
  | paren inner, .inner => some inner
  | unary _ operand, .operand => some operand
  | binary _ lhs _, .lhs => some lhs
  | binary _ _ rhs, .rhs => some rhs
  | _, _ => none

/-- The part of an expression at the end of a path. -/
def at? (e : Expr) : List Branch → Option Expr
  | [] => some e
  | branch :: path => (e.child? branch).bind (·.at? path)

theorem at?_concat (e : Expr) (path : List Branch) (branch : Branch) :
    e.at? (path ++ [branch]) = (e.at? path).bind (·.child? branch) := by
  induction path generalizing e with
  | nil => cases h : e.child? branch <;> simp [at?, h]
  | cons first path ih =>
    cases h : e.child? first with
    | none => simp [at?, h]
    | some part => simpa [at?, h] using ih part

/-- For the operand of a binary expression: the operator, the side and the
operand on the other side. -/
def operand? : Expr → Branch → Option (Operator × Side × Expr)
  | binary op _ rhs, .lhs => some (op, .lhs, rhs)
  | binary op lhs _, .rhs => some (op, .rhs, lhs)
  | _, _ => none

/-- What an expression is apart from its parts: its form with its operator, or
the name or value of a leaf. -/
inductive Label where
  | paren
  | unary (op : Operator)
  | binary (op : Operator)
  | leaf (e : Expr)

def label : Expr → Label
  | paren _ => .paren
  | unary op _ => .unary op
  | binary op _ _ => .binary op
  | e => .leaf e

theorem eq_of_label_eq_leaf {e e' : Expr} (h : e'.label = .leaf e) : e' = e := by
  cases e' with
  | paren | unary | binary => cases h
  | _ =>
    cases h
    rfl

/-- Expressions with the same labels everywhere are the same. -/
theorem eq_of_label_at? {e e' : Expr}
    (h : ∀ path, (e.at? path).map label = (e'.at? path).map label) : e = e' := by
  have hroot : e.label = e'.label := by simpa [at?] using h []
  induction e generalizing e' with
  | paren inner ih =>
    cases e' with
    | paren inner' =>
      have hinner : ∀ path, (inner.at? path).map label = (inner'.at? path).map label :=
        fun path => h (.inner :: path)
      rw [ih hinner (by simpa [at?] using hinner [])]
    | _ => cases hroot
  | unary op operand ih =>
    cases e' with
    | unary op' operand' =>
      cases hroot
      have hoperand : ∀ path, (operand.at? path).map label = (operand'.at? path).map label :=
        fun path => h (.operand :: path)
      rw [ih hoperand (by simpa [at?] using hoperand [])]
    | _ => cases hroot
  | binary op lhs rhs ihl ihr =>
    cases e' with
    | binary op' lhs' rhs' =>
      cases hroot
      have hl : ∀ path, (lhs.at? path).map label = (lhs'.at? path).map label :=
        fun path => h (.lhs :: path)
      have hr : ∀ path, (rhs.at? path).map label = (rhs'.at? path).map label :=
        fun path => h (.rhs :: path)
      rw [ihl hl (by simpa [at?] using hl []), ihr hr (by simpa [at?] using hr [])]
    | _ => cases hroot
  | _ => exact (eq_of_label_eq_leaf hroot.symm).symm

end Expr

namespace Context

/-! ## Literals -/

/-- The conversions of a string literal as an operand of `op`, across from
`other`. -/
inductive Converts (ctx : Context) (op : Operator) (side : Side) (other : Expr) (raw : String)
    (pos : Position) : Expr → Prop where
  /-- A plain comparison with a date reads the literal as a date. -/
  | toDate {value} (kind : op.kind ∈ plainKinds) (date : ctx.typeOf other = .date)
      (reads : DateText.read? ctx.zone ctx.settings raw = some value) :
      Converts ctx op side other raw pos (.date value pos)
  /-- The right operand is a glob, and so is the left one unless the right one
  is a string literal. -/
  | toGlob (kind : op.kind = .glob) (pattern : side = .rhs ∨ isStringLiteral other = false) :
      Converts ctx op side other raw pos (.glob raw pos)
  /-- The same for a regular expression, if it compiles. -/
  | toRegex {value} (kind : op.kind = .regexp)
      (pattern : side = .rhs ∨ isStringLiteral other = false)
      (compiles : Regex.compile raw = .ok value) (source : value.source = raw) :
      Converts ctx op side other raw pos (.regex value pos)

theorem source_of_compile {raw : String} {value : Regex} (h : Regex.compile raw = .ok value) :
    value.source = raw := by
  rw [Regex.compile] at h
  split at h
  · cases h
    rfl
  · cases h

/-- A listed conversion is performed. -/
theorem Converts.convertOperand_eq {ctx : Context} {op : Operator} {side : Side} {other : Expr}
    {raw : String} {pos : Position} {leaf : Expr}
    (h : ctx.Converts op side other raw pos leaf) :
    (ctx.convertOperand op side other (.string raw pos)).1 = leaf := by
  cases h with
  | toDate kind date reads => rw [(LiteralStep.toDate kind date reads).convertOperand_eq]
  | toGlob kind pattern => rw [(LiteralStep.toGlob kind pattern).convertOperand_eq]
  | toRegex kind pattern compiles =>
    rw [(LiteralStep.toRegex kind pattern compiles).convertOperand_eq]

/-- A conversion that is performed is a listed one. -/
theorem converts_or_eq_string (ctx : Context) (op : Operator) (side : Side) (other : Expr)
    (raw : String) (pos : Position) :
    ctx.Converts op side other raw pos
        (ctx.convertOperand op side other (.string raw pos)).1 ∨
      (ctx.convertOperand op side other (.string raw pos)).1 = .string raw pos := by
  obtain ⟨leaf, events, heq, hstep⟩ := literalStep ctx op side other raw pos
  rw [heq]
  cases hstep with
  | kept | notDate | notRegex => exact .inr rfl
  | toDate kind date reads => exact .inl (.toDate kind date reads)
  | toGlob kind pattern => exact .inl (.toGlob kind pattern)
  | toRegex kind pattern compiles =>
    exact .inl (.toRegex kind pattern compiles (source_of_compile compiles))

/-- What becomes of a string literal: the conversion that applies to it, and
the literal itself if none does. -/
theorem convertOperand_string_eq_iff (ctx : Context) (op : Operator) (side : Side)
    (other : Expr) (raw : String) (pos : Position) (leaf : Expr) :
    (ctx.convertOperand op side other (.string raw pos)).1 = leaf ↔
      ctx.Converts op side other raw pos leaf ∨
        leaf = .string raw pos ∧ ∀ other', ¬ctx.Converts op side other raw pos other' := by
  constructor
  · intro hleaf
    subst hleaf
    rcases converts_or_eq_string ctx op side other raw pos with hconverts | hstring
    · exact .inl hconverts
    · by_cases hexists : ∃ leaf, ctx.Converts op side other raw pos leaf
      · obtain ⟨leaf, hconverts⟩ := hexists
        rw [hconverts.convertOperand_eq]
        exact .inl hconverts
      · exact .inr ⟨hstring, fun leaf hconverts => hexists ⟨leaf, hconverts⟩⟩
  · intro h
    rcases h with hconverts | ⟨rfl, hnone⟩
    · exact hconverts.convertOperand_eq
    · exact (converts_or_eq_string ctx op side other raw pos).resolve_left (hnone _)

/-! ## Trees -/

/-- What becomes of `e` as the part of `parent` at `branch`. -/
def image (ctx : Context) (parent : Expr) (branch : Branch) (e : Expr) : Expr :=
  match parent.operand? branch with
  | some (op, side, other) => ctx.refineOperand op side other e
  | none => (ctx.refine e).expr

theorem image_of_not_isStringLiteral (ctx : Context) (parent : Expr) (branch : Branch)
    {e : Expr} (h : isStringLiteral e = false) :
    ctx.image parent branch e = (ctx.refine e).expr := by
  rw [image]
  split
  · exact refineOperand_of_not_isStringLiteral ctx _ _ _ h
  · rfl

theorem isLiteral_image (ctx : Context) (parent : Expr) (branch : Branch) {e : Expr}
    (h : isStringLiteral e = true) : isLiteral (ctx.image parent branch e) = true := by
  rw [image]
  split
  · exact isLiteral_refineOperand ctx _ _ _ h
  · obtain ⟨raw, pos, rfl⟩ := eq_string_of_isStringLiteral h
    rfl

theorem pos_image (ctx : Context) (parent : Expr) (branch : Branch) (e : Expr) :
    (ctx.image parent branch e).pos = e.pos := by
  rw [image]
  split
  · rw [refineOperand, pos_convertOperand, pos_refine]
  · exact pos_refine ctx e

theorem child?_refine (ctx : Context) (e : Expr) (branch : Branch) :
    (ctx.refine e).expr.child? branch = (e.child? branch).map (ctx.image e branch) := by
  cases e with
  | binary op lhs rhs =>
    rw [refine_binary_expr]
    cases branch <;> rfl
  | _ => cases branch <;> rfl

theorem child?_image (ctx : Context) (parent : Expr) (branch : Branch) (e : Expr)
    (next : Branch) :
    (ctx.image parent branch e).child? next = (e.child? next).map (ctx.image e next) := by
  cases hstring : isStringLiteral e with
  | true =>
    have hliteral := isLiteral_image ctx parent branch hstring
    obtain ⟨raw, pos, rfl⟩ := eq_string_of_isStringLiteral hstring
    cases himage : ctx.image parent branch (.string raw pos) with
    | string | number | date | glob | regex => rfl
    | _ => simp [himage, isLiteral] at hliteral
  | false =>
    rw [image_of_not_isStringLiteral ctx parent branch hstring]
    exact child?_refine ctx e next

/-- The part at the end of a path is the image of the part of the original
under its own parent.  The induction is on the path and carries along that
the immediate parts are images. -/
theorem at?_concat_of_child? (ctx : Context) {e e' : Expr}
    (h : ∀ next, e'.child? next = (e.child? next).map (ctx.image e next))
    (path : List Branch) (branch : Branch) :
    e'.at? (path ++ [branch]) =
      (e.at? path).bind fun parent => (parent.child? branch).map (ctx.image parent branch) := by
  induction path generalizing e e' with
  | nil =>
    rw [Expr.at?_concat]
    exact h branch
  | cons first path ih =>
    rw [List.cons_append, Expr.at?, Expr.at?, h first]
    cases e.child? first with
    | none => rfl
    | some part => exact ih (child?_image ctx e first part)

theorem at?_refine_concat (ctx : Context) (e : Expr) (path : List Branch) (branch : Branch) :
    (ctx.refine e).expr.at? (path ++ [branch]) =
      (e.at? path).bind fun parent => (parent.child? branch).map (ctx.image parent branch) :=
  at?_concat_of_child? ctx (child?_refine ctx e) path branch

theorem label_refine (ctx : Context) (e : Expr) : (ctx.refine e).expr.label = e.label := by
  cases e with
  | binary op lhs rhs =>
    rw [refine_binary_expr]
    rfl
  | _ => rfl

/-- How a query is carried over into its refinement. -/
structure IsRefinement (ctx : Context) (query refined : Expr) : Prop where
  /-- Everything but string literals stays at its place, and nothing is added. -/
  nodes : ∀ path, (∀ raw pos, query.at? path ≠ some (.string raw pos)) →
    (refined.at? path).map Expr.label = (query.at? path).map Expr.label
  /-- A string literal that is an operand becomes what its operator makes of it,
  and stays as it is if that is nothing. -/
  operands : ∀ path parent branch op side other raw pos, query.at? path = some parent →
    parent.operand? branch = some (op, side, other) →
    parent.child? branch = some (.string raw pos) →
    ∀ leaf, refined.at? (path ++ [branch]) = some leaf ↔
      ctx.Converts op side other raw pos leaf ∨
        leaf = .string raw pos ∧ ∀ other', ¬ctx.Converts op side other raw pos other'
  /-- Any other string literal stays as it is. -/
  strings : ∀ path parent branch raw pos, query.at? path = some parent →
    parent.operand? branch = none → parent.child? branch = some (.string raw pos) →
    refined.at? (path ++ [branch]) = some (.string raw pos)
  /-- Every part starts where it started. -/
  positions : ∀ path, (refined.at? path).map Expr.pos = (query.at? path).map Expr.pos

theorem refine_isRefinement (ctx : Context) (e : Expr) :
    ctx.IsRefinement e (ctx.refine e).expr where
  nodes path hstring := by
    rcases List.eq_nil_or_concat path with rfl | ⟨path, branch, rfl⟩
    · exact congrArg some (label_refine ctx e)
    · rw [List.concat_eq_append] at hstring ⊢
      rw [at?_refine_concat, Expr.at?_concat]
      rw [Expr.at?_concat] at hstring
      cases hparent : e.at? path with
      | none => rfl
      | some parent =>
        rw [hparent, Option.bind_some] at hstring
        cases hpart : parent.child? branch with
        | none => simp [hpart]
        | some part =>
          have hnot : isStringLiteral part = false := by
            by_contra hpart'
            obtain ⟨raw, pos, rfl⟩ := eq_string_of_isStringLiteral (Bool.of_not_eq_false hpart')
            exact hstring raw pos hpart
          simp [hpart, image_of_not_isStringLiteral ctx parent branch hnot, label_refine]
  operands path parent branch op side other raw pos hparent hoperand hchild leaf := by
    rw [at?_refine_concat, hparent, Option.bind_some, hchild, Option.map_some, image, hoperand,
      Option.some_inj]
    exact convertOperand_string_eq_iff ctx op side other raw pos leaf
  strings path parent branch raw pos hparent hoperand hchild := by
    rw [at?_refine_concat, hparent, Option.bind_some, hchild, Option.map_some, image, hoperand]
    rfl
  positions path := by
    rcases List.eq_nil_or_concat path with rfl | ⟨path, branch, rfl⟩
    · exact congrArg some (pos_refine ctx e)
    · rw [List.concat_eq_append, at?_refine_concat, Expr.at?_concat]
      cases e.at? path with
      | none => rfl
      | some parent => cases hpart : parent.child? branch <;> simp [hpart, pos_image]

/-- The description leaves no choice: labels and string literals together fix
every part, and the root of a logical query is no string literal. -/
theorem IsRefinement.unique {ctx : Context} {query refined refined' : Expr}
    (hlogical : query.isLogical = true) (h : ctx.IsRefinement query refined)
    (h' : ctx.IsRefinement query refined') : refined = refined' := by
  apply Expr.eq_of_label_at?
  intro path
  by_cases hstring : ∃ raw pos, query.at? path = some (.string raw pos)
  · obtain ⟨raw, pos, hpart⟩ := hstring
    rcases List.eq_nil_or_concat path with rfl | ⟨path, branch, rfl⟩
    · cases hpart
      cases hlogical
    · rw [List.concat_eq_append] at hpart ⊢
      rw [Expr.at?_concat, Option.bind_eq_some_iff] at hpart
      obtain ⟨parent, hparent, hchild⟩ := hpart
      congr 1
      cases hoperand : parent.operand? branch with
      | none =>
        rw [h.strings path parent branch raw pos hparent hoperand hchild,
          h'.strings path parent branch raw pos hparent hoperand hchild]
      | some operand =>
        obtain ⟨op, side, other⟩ := operand
        ext leaf
        rw [h.operands path parent branch op side other raw pos hparent hoperand hchild,
          h'.operands path parent branch op side other raw pos hparent hoperand hchild]
  · have hnode : ∀ raw pos, query.at? path ≠ some (.string raw pos) :=
      fun raw pos heq => hstring ⟨raw, pos, heq⟩
    rw [h.nodes path hnode, h'.nodes path hnode]

/-- The refined query.  It is the one expression that carries the query over,
part by part; a query without logical form comes back as it is. -/
theorem process_expr_iff_isRefinement (ctx : Context) (query : Expr) :
    (query.isLogical = true →
        ∀ refined, (ctx.process query).expr = refined ↔ ctx.IsRefinement query refined) ∧
      (query.isLogical = false → (ctx.process query).expr = query) := by
  constructor
  · intro hlogical refined
    rw [(process_of_isLogical ctx hlogical).1]
    constructor
    · intro hrefined
      subst hrefined
      exact refine_isRefinement ctx query
    · intro h
      exact (refine_isRefinement ctx query).unique hlogical h
  · intro hlogical
    exact (process_of_not_isLogical ctx hlogical).1

/-- The theorem at `Created >= "2017-07-16" AND "a*" GLOB Summary`. -/
theorem isRefinement_of_date_and_glob :
    let ctx : Context :=
      { schema := (FieldTable.ofList [("Created", .date), ("Summary", .string)]).schema
        zone := ZoneTable.zone ⟨0, []⟩ }
    let query := Expr.join .and ⟨1, 25⟩
      (.join .ge ⟨1, 9⟩ (.identifier "Created" ⟨1, 1⟩) (.string "2017-07-16" ⟨1, 12⟩))
      (.join .glob ⟨1, 34⟩ (.string "a*" ⟨1, 29⟩) (.identifier "Summary" ⟨1, 39⟩))
    let refined := Expr.join .and ⟨1, 25⟩
      (.join .ge ⟨1, 9⟩ (.identifier "Created" ⟨1, 1⟩)
        (.date ⟨⟨1500163200, 0, by decide⟩, 0⟩ ⟨1, 12⟩))
      (.join .glob ⟨1, 34⟩ (.glob "a*" ⟨1, 29⟩) (.identifier "Summary" ⟨1, 39⟩))
    query.isLogical = true ∧ ctx.IsRefinement query refined := by
  intro ctx query refined
  have hexpr : (ctx.process query).expr = refined := by decide +kernel
  exact ⟨rfl, ((process_expr_iff_isRefinement ctx query).1 rfl refined).1 hexpr⟩

end Context

end FilterQuery
