import FilterQuery.Proofs.RefinedTree
import Mathlib.Data.List.Chain
import Mathlib.Data.Option.Basic

/-!
# Runs of refinements

A query can be refined over and over, each time against another schema, other
settings and another zone.  This module says what such a run can do to it:
string literals become more specific literals, each at most once, and nothing
else ever happens.

There are four groups.

* `Expr.Specializes` relates an expression to one in which some string
  literals are replaced by more specific ones.  It is a preorder.
* One call.  `Context.specializes_process` is the step: whatever the context
  is, the outcome specializes the query.
* Counting.  A replacement uses a string literal up (`Expr.stringCount`), so
  a list in which each entry specializes the one before has no more changes
  than its first entry has string literals (`changes_le_of_isChain`).
* Runs.  `Context.run` lists the queries of a run, and `run_specializes` puts
  the three together.  What holds of whole queries holds of the part at a path
  too (`Specializes.at?`), and a leaf has at most one string literal to use up.
-/

namespace FilterQuery

/-! ## More specific expressions -/

namespace Expr

/-- The second expression is the first one with some string literals replaced
by dates, globs and regular expressions at the same positions.  A glob has the
text of the literal for its pattern and a regular expression has it for its
source. -/
inductive Specializes : Expr → Expr → Prop where
  | leaf {e} (h : e.isLogical = false) : Specializes e e
  | toDate {raw pos} (value : ZonedTime) : Specializes (.string raw pos) (.date value pos)
  | toGlob {raw pos} : Specializes (.string raw pos) (.glob raw pos)
  | toRegex {raw pos} {value : Regex} (source : value.source = raw) :
      Specializes (.string raw pos) (.regex value pos)
  | paren {inner inner'} (h : Specializes inner inner') :
      Specializes (.paren inner) (.paren inner')
  | unary {op operand operand'} (h : Specializes operand operand') :
      Specializes (.unary op operand) (.unary op operand')
  | binary {op lhs rhs lhs' rhs'} (hl : Specializes lhs lhs') (hr : Specializes rhs rhs') :
      Specializes (.binary op lhs rhs) (.binary op lhs' rhs')

namespace Specializes

theorem refl (e : Expr) : e.Specializes e := by
  induction e with
  | paren inner ih => exact .paren ih
  | unary op operand ih => exact .unary ih
  | binary op lhs rhs ihl ihr => exact .binary ihl ihr
  | _ => exact .leaf rfl

/-- Only string literals are replaced. -/
theorem eq_of_not_isStringLiteral {e e' : Expr} (h : e.Specializes e')
    (hlogical : e.isLogical = false) (hstring : Context.isStringLiteral e = false) : e' = e := by
  cases h with
  | leaf => rfl
  | toDate | toGlob | toRegex => cases hstring
  | paren | unary | binary => cases hlogical

/-- A literal that was replaced is not replaced again. -/
theorem trans {e e' e'' : Expr} (h : e.Specializes e') (h' : e'.Specializes e'') :
    e.Specializes e'' := by
  induction h generalizing e'' with
  | leaf => exact h'
  | toDate value =>
    rw [h'.eq_of_not_isStringLiteral rfl rfl]
    exact .toDate value
  | toGlob =>
    rw [h'.eq_of_not_isStringLiteral rfl rfl]
    exact .toGlob
  | toRegex source =>
    rw [h'.eq_of_not_isStringLiteral rfl rfl]
    exact .toRegex source
  | paren _ ih =>
    cases h' with
    | leaf hleaf => cases hleaf
    | paren h' => exact .paren (ih h')
  | unary _ ih =>
    cases h' with
    | leaf hleaf => cases hleaf
    | unary h' => exact .unary (ih h')
  | binary _ _ ihl ihr =>
    cases h' with
    | leaf hleaf => cases hleaf
    | binary hl' hr' => exact .binary (ihl hl') (ihr hr')

instance : IsTrans Expr Specializes := ⟨fun _ _ _ h h' => h.trans h'⟩

theorem child? {e e' : Expr} (h : e.Specializes e') (branch : Branch) :
    Option.Rel Specializes (e.child? branch) (e'.child? branch) := by
  cases h with
  | leaf hleaf =>
    cases e with
    | paren | unary | binary => cases hleaf
    | _ => exact .none
  | toDate | toGlob | toRegex => exact .none
  | paren h =>
    cases branch with
    | inner => exact .some h
    | _ => exact .none
  | unary h =>
    cases branch with
    | operand => exact .some h
    | _ => exact .none
  | binary hl hr =>
    cases branch with
    | lhs => exact .some hl
    | rhs => exact .some hr
    | _ => exact .none

/-- The parts at a path specialize each other too. -/
theorem at? {e e' : Expr} (h : e.Specializes e') (path : List Branch) :
    Option.Rel Specializes (e.at? path) (e'.at? path) := by
  induction path generalizing e e' with
  | nil => exact .some h
  | cons branch path ih =>
    have hchild := h.child? branch
    rw [Expr.at?, Expr.at?]
    generalize e.child? branch = part?, e'.child? branch = part?' at hchild
    cases hchild with
    | none => exact .none
    | some hpart => exact ih hpart

end Specializes

end Expr

/-! ## One call -/

namespace Context

/-- What an operator makes of a string literal. -/
theorem specializes_convertOperand (ctx : Context) (op : Operator) (side : Side)
    (other : Expr) (raw : String) (pos : Position) :
    (Expr.string raw pos).Specializes (ctx.convertOperand op side other (.string raw pos)).1 := by
  rcases converts_or_eq_string ctx op side other raw pos with hconverts | hkept
  · generalize (ctx.convertOperand op side other (.string raw pos)).1 = leaf at hconverts
    cases hconverts with
    | toDate => exact .toDate _
    | toGlob => exact .toGlob
    | toRegex _ _ _ source => exact .toRegex source
  · rw [hkept]
    exact .leaf rfl

/-- What becomes of an operand, if refinement by itself specializes it. -/
theorem specializes_refineOperand (ctx : Context) (op : Operator) (side : Side) (other : Expr)
    {e : Expr} (h : e.Specializes (ctx.refine e).expr) :
    e.Specializes (ctx.refineOperand op side other e) := by
  cases hstring : isStringLiteral e with
  | true =>
    rw [refineOperand_of_isStringLiteral ctx op side other hstring]
    obtain ⟨raw, pos, rfl⟩ := eq_string_of_isStringLiteral hstring
    exact specializes_convertOperand ctx op side other raw pos
  | false =>
    rw [refineOperand_of_not_isStringLiteral ctx op side other hstring]
    exact h

theorem specializes_refine (ctx : Context) (e : Expr) : e.Specializes (ctx.refine e).expr := by
  induction e with
  | paren inner ih => exact .paren ih
  | unary op operand ih => exact .unary ih
  | binary op lhs rhs ihl ihr =>
    rw [refine_binary_expr]
    exact .binary (specializes_refineOperand ctx op .lhs rhs ihl)
      (specializes_refineOperand ctx op .rhs lhs ihr)
  | _ => exact .leaf rfl

theorem specializes_process (ctx : Context) (query : Expr) :
    query.Specializes (ctx.process query).expr := by
  cases hlogical : query.isLogical with
  | true =>
    rw [(process_of_isLogical ctx hlogical).1]
    exact specializes_refine ctx query
  | false =>
    rw [(process_of_not_isLogical ctx hlogical).1]
    exact .refl query

end Context

/-! ## Counting -/

namespace Expr

/-- The number of string literals of an expression. -/
def stringCount (e : Expr) : Nat := e.nodes.countP Context.isStringLiteral

theorem stringCount_paren (inner : Expr) : (paren inner).stringCount = inner.stringCount := by
  simp [stringCount, nodes, Context.isStringLiteral]

theorem stringCount_unary (op : Operator) (operand : Expr) :
    (unary op operand).stringCount = operand.stringCount := by
  simp [stringCount, nodes, Context.isStringLiteral]

theorem stringCount_binary (op : Operator) (lhs rhs : Expr) :
    (binary op lhs rhs).stringCount = lhs.stringCount + rhs.stringCount := by
  simp [stringCount, nodes, Context.isStringLiteral]

theorem stringCount_le_one {e : Expr} (h : e.isLogical = false) : e.stringCount ≤ 1 := by
  cases e with
  | paren | unary | binary => cases h
  | string => exact Nat.le_refl 1
  | _ => exact Nat.zero_le 1

/-- A more specific expression is the same one or has fewer string literals. -/
theorem Specializes.eq_or_stringCount_lt {e e' : Expr} (h : e.Specializes e') :
    e = e' ∨ e'.stringCount < e.stringCount := by
  induction h with
  | leaf => exact .inl rfl
  | toDate | toGlob | toRegex => exact .inr Nat.zero_lt_one
  | paren _ ih =>
    rw [stringCount_paren, stringCount_paren]
    rcases ih with rfl | hlt
    · exact .inl rfl
    · exact .inr hlt
  | unary _ ih =>
    rw [stringCount_unary, stringCount_unary]
    rcases ih with rfl | hlt
    · exact .inl rfl
    · exact .inr hlt
  | binary _ _ ihl ihr =>
    rw [stringCount_binary, stringCount_binary]
    -- An operand that stays the same keeps its count, so one change is enough.
    rcases ihl with rfl | hl <;> rcases ihr with rfl | hr
    · exact .inl rfl
    · exact .inr (by omega)
    · exact .inr (by omega)
    · exact .inr (by omega)

/-- The number of string literals of a part, if there is one. -/
def partStringCount (part? : Option Expr) : Nat := part?.elim 0 stringCount

theorem Specializes.at?_eq_or_partStringCount_lt {e e' : Expr} (h : e.Specializes e')
    (path : List Branch) :
    e.at? path = e'.at? path ∨ partStringCount (e'.at? path) < partStringCount (e.at? path) := by
  have hparts := h.at? path
  generalize e.at? path = part?, e'.at? path = part?' at hparts
  cases hparts with
  | none => exact .inl rfl
  | some hpart =>
    rcases hpart.eq_or_stringCount_lt with rfl | hlt
    · exact .inl rfl
    · exact .inr hlt

end Expr

/-- How often an entry of a list differs from the one before it. -/
def changes {α : Type} [DecidableEq α] : List α → Nat
  | a :: b :: rest => (if a = b then 0 else 1) + changes (b :: rest)
  | _ => 0

/-- If every change uses something up, a list has no more changes than its
first entry has of it. -/
theorem changes_le_of_isChain {α : Type} [DecidableEq α] {measure : α → Nat} {a : α}
    {rest : List α} (h : (a :: rest).IsChain fun x y => x = y ∨ measure y < measure x) :
    changes (a :: rest) ≤ measure a := by
  induction rest generalizing a with
  | nil => exact Nat.zero_le _
  | cons b rest ih =>
    rw [List.isChain_cons_cons] at h
    have hrest := ih h.2
    rw [changes]
    rcases h.1 with rfl | hlt
    · rw [if_pos rfl]
      omega
    · split <;> omega

/-! ## Runs -/

namespace Context

/-- The queries of a run: the first one, and after it what each context makes
of the one before. -/
def run (query : Expr) (contexts : List Context) : List Expr :=
  contexts.scanl (fun query ctx => (ctx.process query).expr) query

theorem run_nil (query : Expr) : run query [] = [query] := rfl

theorem run_cons (query : Expr) (ctx : Context) (contexts : List Context) :
    run query (ctx :: contexts) = query :: run (ctx.process query).expr contexts := by
  simp [run]

theorem exists_run_eq_cons (query : Expr) (contexts : List Context) :
    ∃ rest, run query contexts = query :: rest := by
  cases contexts with
  | nil => exact ⟨[], run_nil query⟩
  | cons ctx contexts => exact ⟨_, run_cons query ctx contexts⟩

/-- Each query of a run specializes the one before. -/
theorem isChain_run (query : Expr) (contexts : List Context) :
    (run query contexts).IsChain Expr.Specializes := by
  induction contexts generalizing query with
  | nil => exact .singleton query
  | cons ctx contexts ih =>
    have hrest := ih (ctx.process query).expr
    obtain ⟨rest, heq⟩ := exists_run_eq_cons (ctx.process query).expr contexts
    rw [run_cons, heq, List.isChain_cons_cons, ← heq]
    exact ⟨specializes_process ctx query, hrest⟩

/-- The part of a query at a path changes at most as often as it has string
literals. -/
theorem changes_at?_run_le {query part : Expr} (contexts : List Context) {path : List Branch}
    (h : query.at? path = some part) :
    changes ((run query contexts).map (·.at? path)) ≤ part.stringCount := by
  have hchain : ((run query contexts).map (·.at? path)).IsChain fun part? part?' =>
      part? = part?' ∨ Expr.partStringCount part?' < Expr.partStringCount part? :=
    (List.isChain_map (·.at? path)).2 <|
      (isChain_run query contexts).imp fun _ _ h => h.at?_eq_or_partStringCount_lt path
  obtain ⟨rest, hrun⟩ := exists_run_eq_cons query contexts
  rw [hrun, List.map_cons, h] at hchain ⊢
  exact changes_le_of_isChain hchain

theorem changes_run_le (query : Expr) (contexts : List Context) :
    changes (run query contexts) ≤ query.stringCount := by
  have hchain := (isChain_run query contexts).imp fun _ _ h => h.eq_or_stringCount_lt
  obtain ⟨rest, hrun⟩ := exists_run_eq_cons query contexts
  rw [hrun] at hchain ⊢
  exact changes_le_of_isChain hchain

/-- A run never goes back.  Every query of it specializes all queries before,
every leaf changes at most once, and no more calls change the query than it
has string literals in the beginning. -/
theorem run_specializes (query : Expr) (contexts : List Context) :
    (run query contexts).Pairwise Expr.Specializes ∧
      (∀ path leaf, query.at? path = some leaf → leaf.isLogical = false →
        changes ((run query contexts).map (·.at? path)) ≤ 1) ∧
      changes (run query contexts) ≤ query.stringCount := by
  refine ⟨List.isChain_iff_pairwise.1 (isChain_run query contexts), ?_,
    changes_run_le query contexts⟩
  intro path leaf hleaf hlogical
  calc changes ((run query contexts).map (·.at? path))
      ≤ leaf.stringCount := changes_at?_run_le contexts hleaf
    _ ≤ 1 := Expr.stringCount_le_one hlogical

-- The bound is reached: `"a" GLOB "b"` becomes a glob on the right first and then one on the left.
example :
    let ctx : Context := { schema := ⟨fun _ => none⟩, zone := ZoneTable.zone ⟨0, []⟩ }
    let query := Expr.join .glob ⟨1, 5⟩ (.string "a" ⟨1, 1⟩) (.string "b" ⟨1, 10⟩)
    changes (run query [ctx, ctx, ctx]) = query.stringCount := by
  decide

end Context

end FilterQuery
