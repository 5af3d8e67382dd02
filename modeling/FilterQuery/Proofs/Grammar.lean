import FilterQuery.Proofs.Node

/-!
# The grammar of valid queries

A query is valid if refinement finds no problem with it.  This module gives
the valid queries a grammar that does not mention refinement: filters are
built from truth values and comparisons, truth values are filters and
Boolean fields, and comparisons relate values.  Refinement accepts exactly
the filters.

The proof is an induction over the query that keeps the two kinds of
operands apart.  `problems_eq_nil_iff` is its statement: an expression at
any place of a query has no problem if and only if it is a truth value or a
value.  One lemma for each form of node says when the node itself has no
problem; for comparisons these are `comparison_checks_eq_nil_iff` and the
three lemmas after it, one for each kind of comparison.
-/

namespace FilterQuery

namespace Context

/-! ## The grammar -/

/-- What a comparison may compare: a declared field that is not Boolean, or a
literal. -/
inductive IsValue (ctx : Context) : Expr → Prop where
  | field {name pos type} (declared : ctx.schema.typeOf? name = some type)
      (value : type ≠ .boolean) : IsValue ctx (.identifier name pos)
  | string {raw pos} : IsValue ctx (.string raw pos)
  | number {value pos} : IsValue ctx (.number value pos)
  | date {value pos} : IsValue ctx (.date value pos)
  | glob {pattern pos} : IsValue ctx (.glob pattern pos)
  | regex {value pos} : IsValue ctx (.regex value pos)

/-- A date: a field of that type or a literal. -/
inductive IsDate (ctx : Context) : Expr → Prop where
  | field {name pos} (declared : ctx.schema.typeOf? name = some .date) :
      IsDate ctx (.identifier name pos)
  | literal {value pos} : IsDate ctx (.date value pos)

/-- What can be matched with a pattern: a text, or a field that is declared
without a type. -/
inductive IsMatchable (ctx : Context) : Expr → Prop where
  | field {name pos} (declared : ctx.schema.typeOf? name = some .string) :
      IsMatchable ctx (.identifier name pos)
  | untyped {name pos} (declared : ctx.schema.typeOf? name = some .invalid) :
      IsMatchable ctx (.identifier name pos)
  | string {raw pos} : IsMatchable ctx (.string raw pos)
  | glob {pattern pos} : IsMatchable ctx (.glob pattern pos)
  | regex {value pos} : IsMatchable ctx (.regex value pos)

/-- The operand that holds the pattern: the left one if it alone is a string
literal, and else the right one. -/
def patternOperand (lhs rhs : Expr) : Expr :=
  match lhs, rhs with
  | .string _ _, .string _ _ => rhs
  | .string _ _, _ => lhs
  | _, _ => rhs

/-- A comparison of two values.  A text across from a date has to be a date,
and the pattern of a regular expression has to compile. -/
inductive IsComparison (ctx : Context) (op : Operator) (lhs rhs : Expr) : Prop where
  | plain
      (kind : op.kind ∈ plainKinds)
      (left : IsValue ctx lhs) (right : IsValue ctx rhs)
      (leftDate : ∀ raw pos, lhs = .string raw pos → IsDate ctx rhs →
        ∃ value, DateText.read? ctx.zone ctx.settings raw = some value)
      (rightDate : ∀ raw pos, rhs = .string raw pos → IsDate ctx lhs →
        ∃ value, DateText.read? ctx.zone ctx.settings raw = some value)
  | glob
      (kind : op.kind = .glob)
      (left : IsValue ctx lhs) (right : IsValue ctx rhs)
      (leftText : IsMatchable ctx lhs) (rightText : IsMatchable ctx rhs)
  | regexp
      (kind : op.kind = .regexp)
      (left : IsValue ctx lhs) (right : IsValue ctx rhs)
      (leftText : IsMatchable ctx lhs) (rightText : IsMatchable ctx rhs)
      (pattern : ∀ raw pos, patternOperand lhs rhs = .string raw pos →
        ∃ value, Regex.compile raw = .ok value)

mutual

/-- A valid query. -/
inductive IsFilter (ctx : Context) : Expr → Prop where
  | paren {inner} (truth : IsTruth ctx inner) : IsFilter ctx (.paren inner)
  | negation {op operand} (kind : op.kind = .not) (truth : IsTruth ctx operand) :
      IsFilter ctx (.unary op operand)
  | connective {op lhs rhs} (kind : op.kind = .and ∨ op.kind = .or)
      (left : IsTruth ctx lhs) (right : IsTruth ctx rhs) :
      IsFilter ctx (.binary op lhs rhs)
  | comparison {op lhs rhs} (comparison : IsComparison ctx op lhs rhs) :
      IsFilter ctx (.binary op lhs rhs)

/-- What a connective may connect: a filter or a Boolean field. -/
inductive IsTruth (ctx : Context) : Expr → Prop where
  | filter {e} (filter : IsFilter ctx e) : IsTruth ctx e
  | field {name pos} (declared : ctx.schema.typeOf? name = some .boolean) :
      IsTruth ctx (.identifier name pos)

end

/-! ## Types and the grammar -/

theorem IsFilter.isLogical {ctx : Context} {e : Expr} (h : IsFilter ctx e) :
    e.isLogical = true := by
  cases h <;> rfl

theorem IsTruth.typeOf_eq {ctx : Context} {e : Expr} (h : IsTruth ctx e) :
    ctx.typeOf e = .boolean := by
  cases h with
  | filter h => cases h <;> rfl
  | field declared => simp [typeOf, declared]

theorem IsValue.typeOf_ne {ctx : Context} {e : Expr} (h : IsValue ctx e) :
    ctx.typeOf e ≠ .boolean := by
  cases h with
  | field declared value => simpa [typeOf, declared] using value
  | _ => simp [typeOf]

theorem typeOf_eq_date_iff (ctx : Context) (e : Expr) :
    ctx.typeOf e = .date ↔ IsDate ctx e := by
  constructor
  · intro h
    cases e with
    | identifier name pos =>
      rw [typeOf, Option.getD_eq_iff] at h
      rcases h with declared | ⟨-, h⟩
      · exact .field declared
      · cases h
    | date value pos => exact .literal
    | _ => cases h
  · intro h
    cases h with
    | field declared => simp [typeOf, declared]
    | literal => rfl

/-- The operand check of a pattern operator lets exactly the matchable values
pass. -/
theorem IsValue.isMatchable_iff {ctx : Context} {e : Expr} (h : IsValue ctx e) :
    IsMatchable ctx e ↔ ctx.typeOf e = .invalid ∨ ctx.typeOf e = .string := by
  cases h with
  | @field name pos type declared value =>
    constructor
    · intro hm
      cases hm with
      | field hs => exact .inr (by simp [typeOf, hs])
      | untyped hi => exact .inl (by simp [typeOf, hi])
    · intro ht
      simp only [typeOf, declared, Option.getD_some] at ht
      rcases ht with rfl | rfl
      · exact .untyped declared
      · exact .field declared
  | string => exact iff_of_true .string (.inr rfl)
  | number | date =>
    refine iff_of_false (fun hm => ?_) (by simp [typeOf])
    cases hm
  | glob => exact iff_of_true .glob (.inr rfl)
  | regex => exact iff_of_true .regex (.inr rfl)

/-! ## When a node has no problem of its own -/

theorem ownProblems_paren_eq_nil_iff (ctx : Context) (inner : Expr) :
    ctx.ownProblems (.paren inner) = [] ↔ ctx.typeOf inner = .boolean := by
  rw [ownProblems, ownEvents]
  split_ifs with h <;> simp [h]

theorem ownProblems_unary_eq_nil_iff (ctx : Context) (op : Operator) (operand : Expr) :
    ctx.ownProblems (.unary op operand) = [] ↔
      op.kind = .not ∧ ctx.typeOf operand = .boolean := by
  have hnot : op.kind.isUnary = true ↔ op.kind = .not := by
    cases op.kind <;> simp [OperatorKind.isUnary]
  rw [ownProblems, ownEvents, checkUnary]
  split_ifs with hunary htype <;> simp_all

theorem ownProblems_connective_eq_nil_iff (ctx : Context) {op : Operator} (lhs rhs : Expr)
    (hop : op.kind.isLogical = true) :
    ctx.ownProblems (.binary op lhs rhs) = [] ↔
      ctx.typeOf lhs = .boolean ∧ ctx.typeOf rhs = .boolean := by
  have hconvert := convertOperand_of_not_isComparison ctx (isComparison_of_isLogical hop)
  rw [ownProblems, ownEvents, checkBinary, if_pos hop, checkConnective]
  split_ifs with htypes <;> simp [htypes, hconvert]

theorem ownProblems_misplaced_ne_nil (ctx : Context) {op : Operator} (lhs rhs : Expr)
    (hop : op.kind = .not) : ctx.ownProblems (.binary op lhs rhs) ≠ [] := by
  simp [ownProblems, ownEvents, checkBinary, hop, OperatorKind.isLogical,
    OperatorKind.isComparison]

theorem checkValueTypes_eq_nil_iff (op : Operator) (lhs rhs : FieldType) :
    Event.problems (checkValueTypes op lhs rhs) = [] ↔
      lhs ≠ .boolean ∧ rhs ≠ .boolean := by
  rw [checkValueTypes]
  split_ifs with h <;> simp_all [FieldType.isValueType]

theorem checkOperand_pattern_eq_nil_iff (op : Operator) (side : Side) {type : FieldType}
    (hop : op.kind.isPattern = true) (htype : type ≠ .boolean) :
    Event.problems (checkOperand op side type) = [] ↔
      type = .invalid ∨ type = .string := by
  have hallowed : op.kind.allowedTypes? = some [.string] := by
    cases h : op.kind <;> simp_all [OperatorKind.isPattern, OperatorKind.allowedTypes?]
  rw [checkOperand, hallowed]
  cases type <;> simp_all

/-- When the conversion of a string literal finds no problem: it is a date where
one is asked for, and it compiles where it is taken for a regular
expression. -/
theorem convertOperand_string_problems_eq_nil_iff (ctx : Context) (op : Operator) (side : Side)
    (other : Expr) (raw : String) (pos : Position) :
    Event.problems (ctx.convertOperand op side other (.string raw pos)).2 = [] ↔
      (op.kind ∈ plainKinds → IsDate ctx other →
        ∃ value, DateText.read? ctx.zone ctx.settings raw = some value) ∧
      (op.kind = .regexp → side = .rhs ∨ isStringLiteral other = false →
        ∃ value, Regex.compile raw = .ok value) := by
  have hplain : op.kind = .regexp → op.kind ∉ plainKinds := by
    intro hkind
    rw [hkind]
    decide
  obtain ⟨leaf, events, heq, hstep⟩ := literalStep ctx op side other raw pos
  rw [heq, ← typeOf_eq_date_iff]
  cases hstep with
  | kept plain pattern =>
    refine iff_of_true rfl ⟨fun hkind hdate => absurd hdate (plain hkind), fun hkind hside => ?_⟩
    obtain ⟨rfl, hother⟩ := pattern (by rw [hkind]; rfl)
    simp [hother] at hside
  | toDate kind date reads =>
    exact iff_of_true rfl ⟨fun _ _ => ⟨_, reads⟩, fun hkind => absurd kind (hplain hkind)⟩
  | notDate kind date fails =>
    refine iff_of_false (List.cons_ne_nil _ _) fun h => ?_
    obtain ⟨value, reads⟩ := h.1 kind date
    rw [fails] at reads
    cases reads
  | toGlob kind => simp [kind, plainKinds]
  | toRegex kind pattern compiles =>
    exact iff_of_true rfl ⟨fun hkind => absurd hkind (hplain kind), fun _ _ => ⟨_, compiles⟩⟩
  | notRegex kind pattern fails =>
    refine iff_of_false (List.cons_ne_nil _ _) fun h => ?_
    obtain ⟨value, compiles⟩ := h.2 kind pattern
    rw [fails] at compiles
    cases compiles

theorem convertOperand_problems_eq_nil_iff (ctx : Context) (op : Operator) (side : Side)
    (other e : Expr) :
    Event.problems (ctx.convertOperand op side other e).2 = [] ↔
      ∀ raw pos, e = .string raw pos →
        (op.kind ∈ plainKinds → IsDate ctx other →
          ∃ value, DateText.read? ctx.zone ctx.settings raw = some value) ∧
        (op.kind = .regexp → side = .rhs ∨ isStringLiteral other = false →
          ∃ value, Regex.compile raw = .ok value) := by
  cases hstring : isStringLiteral e with
  | false =>
    rw [convertOperand_of_not_isStringLiteral ctx op side other hstring]
    refine iff_of_true rfl ?_
    intro raw pos he
    rw [he] at hstring
    cases hstring
  | true =>
    obtain ⟨raw, pos, rfl⟩ := eq_string_of_isStringLiteral hstring
    rw [convertOperand_string_problems_eq_nil_iff]
    constructor
    · intro h raw' pos' heq
      cases heq
      exact h
    · intro h
      exact h raw pos rfl

/-- The operand that holds the pattern, by the side it stands on. -/
theorem patternOperand_eq_string_iff (lhs rhs : Expr) (raw : String) (pos : Position) :
    patternOperand lhs rhs = .string raw pos ↔
      lhs = .string raw pos ∧ isStringLiteral rhs = false ∨ rhs = .string raw pos := by
  cases lhs with
  | string => cases rhs <;> simp [patternOperand, isStringLiteral]
  | _ => simp [patternOperand]

/-- Of the two conversions of a regular expression match, only that of the
pattern can find a problem. -/
theorem convertOperand_regexp_problems_eq_nil_iff (ctx : Context) {op : Operator}
    (hop : op.kind = .regexp) (lhs rhs : Expr) :
    Event.problems (ctx.convertOperand op .lhs rhs lhs).2 = [] ∧
        Event.problems (ctx.convertOperand op .rhs lhs rhs).2 = [] ↔
      ∀ raw pos, patternOperand lhs rhs = .string raw pos →
        ∃ value, Regex.compile raw = .ok value := by
  have hplain : op.kind ∉ plainKinds := by
    rw [hop]
    decide
  simp only [convertOperand_problems_eq_nil_iff, patternOperand_eq_string_iff, hplain]
  constructor
  · intro h raw pos hoperand
    obtain ⟨hl, hr⟩ := h
    rcases hoperand with ⟨heq, hother⟩ | heq
    · exact (hl raw pos heq).2 hop (.inr hother)
    · exact (hr raw pos heq).2 hop (.inl trivial)
  · intro h
    refine ⟨fun raw pos heq => ⟨False.elim, fun _ hside => ?_⟩,
      fun raw pos heq => ⟨False.elim, fun _ _ => h raw pos (.inr heq)⟩⟩
    have hother : isStringLiteral rhs = false := by simpa using hside
    exact h raw pos (.inl ⟨heq, hother⟩)

/-- What a comparison checks: that it compares values, that its operator takes
them, and that its literals can be converted. -/
theorem comparison_checks_eq_nil_iff (ctx : Context) {op : Operator} (lhs rhs : Expr)
    (hop : op.kind.isComparison = true) :
    ctx.ownProblems (.binary op lhs rhs) = [] ↔
      (ctx.typeOf lhs ≠ .boolean ∧ ctx.typeOf rhs ≠ .boolean) ∧
      (Event.problems (checkOperand op .lhs (ctx.typeOf lhs)) = [] ∧
        Event.problems (checkOperand op .rhs (ctx.typeOf rhs)) = []) ∧
      Event.problems (ctx.convertOperand op .lhs rhs lhs).2 = [] ∧
        Event.problems (ctx.convertOperand op .rhs lhs rhs).2 = [] := by
  have hlogical : op.kind.isLogical = false := by
    cases h : op.kind <;> simp_all [OperatorKind.isLogical, OperatorKind.isComparison]
  rw [ownProblems, ownEvents, checkBinary, hlogical, hop]
  simp [checkValueTypes_eq_nil_iff, and_assoc]

theorem ownProblems_plain_eq_nil_iff (ctx : Context) {op : Operator} {lhs rhs : Expr}
    (hop : op.kind ∈ plainKinds)
    (hl : IsValue ctx lhs) (hr : IsValue ctx rhs) :
    ctx.ownProblems (.binary op lhs rhs) = [] ↔ IsComparison ctx op lhs rhs := by
  obtain ⟨hcomparison, hplain⟩ := mem_plainKinds_iff.1 hop
  rw [comparison_checks_eq_nil_iff ctx lhs rhs hcomparison,
    and_iff_right (And.intro hl.typeOf_ne hr.typeOf_ne)]
  have hregexp : op.kind ≠ .regexp := by
    intro h
    simp [h, plainKinds] at hop
  simp only [checkOperand_plain op _ _ hplain, Event.problems_nil, true_and,
    convertOperand_problems_eq_nil_iff, hop, hregexp, true_imp_iff, false_imp_iff, and_true]
  constructor
  · intro h
    obtain ⟨leftDate, rightDate⟩ := h
    exact .plain hop hl hr leftDate rightDate
  · intro h
    cases h with
    | plain _ _ _ leftDate rightDate => exact ⟨leftDate, rightDate⟩
    | glob kind => simp [kind, plainKinds] at hop
    | regexp kind => simp [kind, plainKinds] at hop

theorem ownProblems_glob_eq_nil_iff (ctx : Context) {op : Operator} {lhs rhs : Expr}
    (hop : op.kind = .glob) (hl : IsValue ctx lhs) (hr : IsValue ctx rhs) :
    ctx.ownProblems (.binary op lhs rhs) = [] ↔ IsComparison ctx op lhs rhs := by
  have hpattern : op.kind.isPattern = true := by rw [hop]; rfl
  rw [comparison_checks_eq_nil_iff ctx lhs rhs (by rw [hop]; rfl),
    and_iff_right (And.intro hl.typeOf_ne hr.typeOf_ne),
    checkOperand_pattern_eq_nil_iff op .lhs hpattern hl.typeOf_ne, ← hl.isMatchable_iff,
    checkOperand_pattern_eq_nil_iff op .rhs hpattern hr.typeOf_ne, ← hr.isMatchable_iff]
  constructor
  · intro h
    obtain ⟨⟨leftText, rightText⟩, -⟩ := h
    exact .glob hop hl hr leftText rightText
  · intro h
    cases h with
    | plain kind => simp [hop, plainKinds] at kind
    | glob _ _ _ leftText rightText =>
      refine ⟨⟨leftText, rightText⟩, ?_⟩
      simp [convertOperand_problems_eq_nil_iff, hop, plainKinds]
    | regexp kind => simp [hop] at kind

theorem ownProblems_regexp_eq_nil_iff (ctx : Context) {op : Operator} {lhs rhs : Expr}
    (hop : op.kind = .regexp) (hl : IsValue ctx lhs) (hr : IsValue ctx rhs) :
    ctx.ownProblems (.binary op lhs rhs) = [] ↔ IsComparison ctx op lhs rhs := by
  have hpattern : op.kind.isPattern = true := by rw [hop]; rfl
  rw [comparison_checks_eq_nil_iff ctx lhs rhs (by rw [hop]; rfl),
    and_iff_right (And.intro hl.typeOf_ne hr.typeOf_ne),
    checkOperand_pattern_eq_nil_iff op .lhs hpattern hl.typeOf_ne, ← hl.isMatchable_iff,
    checkOperand_pattern_eq_nil_iff op .rhs hpattern hr.typeOf_ne, ← hr.isMatchable_iff,
    convertOperand_regexp_problems_eq_nil_iff ctx hop]
  constructor
  · intro h
    obtain ⟨⟨leftText, rightText⟩, pattern⟩ := h
    exact .regexp hop hl hr leftText rightText pattern
  · intro h
    cases h with
    | plain kind => simp [hop, plainKinds] at kind
    | glob kind => simp [hop] at kind
    | regexp _ _ _ leftText rightText pattern => exact ⟨⟨leftText, rightText⟩, pattern⟩

/-- A comparison of two values has no problem of its own exactly if the
grammar allows it. -/
theorem ownProblems_comparison_eq_nil_iff (ctx : Context) {op : Operator} {lhs rhs : Expr}
    (hop : op.kind.isComparison = true) (hl : IsValue ctx lhs) (hr : IsValue ctx rhs) :
    ctx.ownProblems (.binary op lhs rhs) = [] ↔ IsComparison ctx op lhs rhs := by
  cases hkind : op.kind with
  | glob => exact ownProblems_glob_eq_nil_iff ctx hkind hl hr
  | regexp => exact ownProblems_regexp_eq_nil_iff ctx hkind hl hr
  | and | or | not => simp [hkind, OperatorKind.isComparison] at hop
  | _ => exact ownProblems_plain_eq_nil_iff ctx (by simp [hkind, plainKinds]) hl hr

/-- A comparison of the grammar has a comparison operator between values. -/
theorem IsComparison.parts {ctx : Context} {op : Operator} {lhs rhs : Expr}
    (h : IsComparison ctx op lhs rhs) :
    op.kind.isComparison = true ∧ IsValue ctx lhs ∧ IsValue ctx rhs := by
  cases h with
  | plain kind left right => exact ⟨(mem_plainKinds_iff.1 kind).1, left, right⟩
  | glob kind left right => exact ⟨by rw [kind]; rfl, left, right⟩
  | regexp kind left right => exact ⟨by rw [kind]; rfl, left, right⟩

/-! ## Validity -/

theorem IsTruth.of_typeOf {ctx : Context} {e : Expr} (h : IsTruth ctx e ∨ IsValue ctx e)
    (htype : ctx.typeOf e = .boolean) : IsTruth ctx e :=
  h.resolve_right fun hvalue => hvalue.typeOf_ne htype

theorem IsValue.of_typeOf {ctx : Context} {e : Expr} (h : IsTruth ctx e ∨ IsValue ctx e)
    (htype : ctx.typeOf e ≠ .boolean) : IsValue ctx e :=
  h.resolve_left fun htruth => htype htruth.typeOf_eq

theorem problems_identifier_eq_nil_iff (ctx : Context) (name : String) (pos : Position) :
    ctx.problems (.identifier name pos) = [] ↔
      ∃ type, ctx.schema.typeOf? name = some type := by
  rw [problems, refine, resolve]
  cases h : ctx.schema.typeOf? name <;> simp

/-- What has the form of a filter is no value. -/
theorem isTruth_or_isValue_iff {ctx : Context} {e : Expr} (h : e.isLogical = true) :
    IsTruth ctx e ∨ IsValue ctx e ↔ IsFilter ctx e := by
  constructor
  · intro hpart
    rcases hpart with (hfilter | _) | hvalue
    · exact hfilter
    · cases h
    · cases hvalue <;> cases h
  · exact fun hfilter => .inl (.filter hfilter)

/-- The step of the induction at a binary expression: given what its operands
are, the operator decides which of the two binary forms it can be. -/
theorem problems_binary_eq_nil_iff (ctx : Context) {op : Operator} {lhs rhs : Expr}
    (ihl : ctx.problems lhs = [] ↔ IsTruth ctx lhs ∨ IsValue ctx lhs)
    (ihr : ctx.problems rhs = [] ↔ IsTruth ctx rhs ∨ IsValue ctx rhs) :
    ctx.problems (.binary op lhs rhs) = [] ↔ IsFilter ctx (.binary op lhs rhs) := by
  simp only [problems_binary, List.append_eq_nil_iff, ihl, ihr]
  constructor
  · intro h
    obtain ⟨⟨hl, hr⟩, hown⟩ := h
    cases hlogical : op.kind.isLogical with
    | true =>
      have hkind : op.kind = .and ∨ op.kind = .or := by
        cases h : op.kind <;> simp_all [OperatorKind.isLogical]
      obtain ⟨htl, htr⟩ := (ownProblems_connective_eq_nil_iff ctx lhs rhs hlogical).1 hown
      exact .connective hkind (.of_typeOf hl htl) (.of_typeOf hr htr)
    | false =>
      have hcomparison : op.kind.isComparison = true := by
        cases h : op.kind <;> simp_all [OperatorKind.isLogical, OperatorKind.isComparison]
        exact ownProblems_misplaced_ne_nil ctx lhs rhs h hown
      obtain ⟨⟨htl, htr⟩, -⟩ := (comparison_checks_eq_nil_iff ctx lhs rhs hcomparison).1 hown
      have hvl : IsValue ctx lhs := .of_typeOf hl htl
      have hvr : IsValue ctx rhs := .of_typeOf hr htr
      exact .comparison ((ownProblems_comparison_eq_nil_iff ctx hcomparison hvl hvr).1 hown)
  · intro h
    cases h with
    | connective kind left right =>
      have hlogical : op.kind.isLogical = true := by
        rcases kind with h | h <;> rw [h] <;> rfl
      exact ⟨⟨.inl left, .inl right⟩, (ownProblems_connective_eq_nil_iff ctx lhs rhs hlogical).2
        ⟨left.typeOf_eq, right.typeOf_eq⟩⟩
    | comparison comparison =>
      obtain ⟨hop, hvl, hvr⟩ := comparison.parts
      exact ⟨⟨.inr hvl, .inr hvr⟩,
        (ownProblems_comparison_eq_nil_iff ctx hop hvl hvr).2 comparison⟩

/-- An expression without problems is a truth value or a value. -/
theorem problems_eq_nil_iff (ctx : Context) (e : Expr) :
    ctx.problems e = [] ↔ IsTruth ctx e ∨ IsValue ctx e := by
  induction e with
  | identifier name pos =>
    rw [problems_identifier_eq_nil_iff]
    constructor
    · intro h
      obtain ⟨type, declared⟩ := h
      by_cases htype : type = .boolean
      · exact .inl (.field (htype ▸ declared))
      · exact .inr (.field declared htype)
    · intro h
      rcases h with h | h
      · cases h with
        | filter h => cases h
        | field declared => exact ⟨_, declared⟩
      · cases h with
        | field declared => exact ⟨_, declared⟩
  | string raw pos => exact iff_of_true rfl (.inr .string)
  | number value pos => exact iff_of_true rfl (.inr .number)
  | date value pos => exact iff_of_true rfl (.inr .date)
  | glob pattern pos => exact iff_of_true rfl (.inr .glob)
  | regex value pos => exact iff_of_true rfl (.inr .regex)
  | paren inner ih =>
    rw [isTruth_or_isValue_iff rfl, problems_paren, List.append_eq_nil_iff,
      ownProblems_paren_eq_nil_iff, ih]
    constructor
    · intro h
      obtain ⟨hpart, htype⟩ := h
      exact .paren (.of_typeOf hpart htype)
    · intro h
      cases h with
      | paren truth => exact ⟨.inl truth, truth.typeOf_eq⟩
  | unary op operand ih =>
    rw [isTruth_or_isValue_iff rfl, problems_unary, List.append_eq_nil_iff,
      ownProblems_unary_eq_nil_iff, ih]
    constructor
    · intro h
      obtain ⟨hpart, hop, htype⟩ := h
      exact .negation hop (.of_typeOf hpart htype)
    · intro h
      cases h with
      | negation kind truth => exact ⟨.inl truth, kind, truth.typeOf_eq⟩
  | binary op lhs rhs ihl ihr =>
    rw [isTruth_or_isValue_iff rfl, problems_binary_eq_nil_iff ctx ihl ihr]

/-- Refinement finds no problem with a query exactly if the grammar allows
it. -/
theorem isValid_iff_isFilter (ctx : Context) (query : Expr) :
    (ctx.process query).isValid = true ↔ IsFilter ctx query := by
  rw [Outcome.isValid, List.isEmpty_iff]
  cases hlogical : query.isLogical with
  | true =>
    rw [(process_of_isLogical ctx hlogical).2, problems_eq_nil_iff,
      isTruth_or_isValue_iff hlogical]
  | false =>
    rw [(process_of_not_isLogical ctx hlogical).2]
    refine iff_of_false (List.cons_ne_nil _ _) fun hfilter => ?_
    rw [hfilter.isLogical] at hlogical
    cases hlogical

end Context

end FilterQuery
