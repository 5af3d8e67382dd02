import FilterQuery.Proofs.Specialization
import FilterQuery.Expr.Equality

/-!
# The log of a refinement

The log of a query and its outcome are two accounts of the same events.  This
module compares them: the lines of one level repeat the problems, and those of
the other can be told from the query and the refined query alone, by looking
for the literals in which they differ.

There are four groups.

* Differences.  `Expr.counterparts` puts the parts of two expressions side by
  side, and `conversionLine?` is what the log says about a literal and the one
  that took its place.  An expression that specializes another one without such
  a line is the same (`Specializes.eq_of_conversionLines_eq_nil`).
* Equality.  Expressions that are equal as a caller sees it differ in no
  literal (`Expr.conversionLines_of_isEqual`), and one without a NaN equals
  itself.
* Lines.  `Event.filter_debug_map_record` and `traces_refine` find the two kinds
  of lines among the events of a refinement.
* Queries.  `process_log` puts them together.
-/

namespace FilterQuery

open Text

namespace Expr

/-! ## Differences -/

/-- The parts of an expression below its root, each with the part at the same
place of another expression.  Those of a left operand come before those of the
right one, and the parts of operands before the operands. -/
def counterparts : Expr → Expr → List (Expr × Expr)
  | .paren inner, .paren inner' => inner.counterparts inner' ++ [(inner, inner')]
  | .unary _ operand, .unary _ operand' => operand.counterparts operand' ++ [(operand, operand')]
  | .binary _ lhs rhs, .binary _ lhs' rhs' =>
    lhs.counterparts lhs' ++ rhs.counterparts rhs' ++ [(lhs, lhs'), (rhs, rhs')]
  | _, _ => []

/-- The line of the log about a string literal and the literal that took its
place: where it stands, its text and what it was taken for. -/
def conversionLine? : Expr → Expr → Option LogRecord
  | .string raw pos, .date value _ =>
    some ⟨.trace, pos.text ++ ": converted \"" ++ raw ++ "\" to date " ++ value.text⟩
  | .string raw pos, .glob _ _ =>
    some ⟨.trace, pos.text ++ ": converted \"" ++ raw ++ "\" to glob"⟩
  | .string raw pos, .regex _ _ =>
    some ⟨.trace, pos.text ++ ": compiled \"" ++ raw ++ "\" to regex"⟩
  | _, _ => none

/-- The lines about all literals in which two expressions differ. -/
def conversionLines (e e' : Expr) : List LogRecord :=
  (e.counterparts e').filterMap fun x => conversionLine? x.1 x.2

theorem conversionLines_paren (inner inner' : Expr) :
    conversionLines (.paren inner) (.paren inner') =
      conversionLines inner inner' ++ (conversionLine? inner inner').toList := by
  rw [conversionLines, counterparts, List.filterMap_append, ← conversionLines]
  cases h : conversionLine? inner inner' <;> simp [h]

theorem conversionLines_unary (op op' : Operator) (operand operand' : Expr) :
    conversionLines (.unary op operand) (.unary op' operand') =
      conversionLines operand operand' ++ (conversionLine? operand operand').toList := by
  rw [conversionLines, counterparts, List.filterMap_append, ← conversionLines]
  cases h : conversionLine? operand operand' <;> simp [h]

theorem conversionLines_binary (op op' : Operator) (lhs rhs lhs' rhs' : Expr) :
    conversionLines (.binary op lhs rhs) (.binary op' lhs' rhs') =
      conversionLines lhs lhs' ++ conversionLines rhs rhs' ++
        ((conversionLine? lhs lhs').toList ++ (conversionLine? rhs rhs').toList) := by
  rw [conversionLines, counterparts, List.filterMap_append, List.filterMap_append,
    ← conversionLines, ← conversionLines]
  cases h : conversionLine? lhs lhs' <;> cases h' : conversionLine? rhs rhs' <;> simp [h, h']

theorem conversionLine?_of_isLogical {e : Expr} (h : e.isLogical = true) (e' : Expr) :
    conversionLine? e e' = none := by
  cases e with
  | paren | unary | binary => rfl
  | _ => cases h

/-- Where no literal was replaced, nothing was. -/
theorem Specializes.eq_of_conversionLines_eq_nil {e e' : Expr} (h : e.Specializes e')
    (hroot : conversionLine? e e' = none) (hparts : conversionLines e e' = []) : e' = e := by
  induction h with
  | leaf => rfl
  | toDate | toGlob | toRegex => cases hroot
  | paren _ ih =>
    rw [conversionLines_paren, List.append_eq_nil_iff, Option.toList_eq_nil_iff] at hparts
    rw [ih hparts.2 hparts.1]
  | unary _ ih =>
    rw [conversionLines_unary, List.append_eq_nil_iff, Option.toList_eq_nil_iff] at hparts
    rw [ih hparts.2 hparts.1]
  | binary _ _ ihl ihr =>
    rw [conversionLines_binary, List.append_eq_nil_iff, List.append_eq_nil_iff,
      List.append_eq_nil_iff, Option.toList_eq_nil_iff, Option.toList_eq_nil_iff] at hparts
    obtain ⟨⟨hl, hr⟩, hlroot, hrroot⟩ := hparts
    rw [ihl hlroot hl, ihr hrroot hr]

/-! ## Equality -/

/-- No number of an expression is a NaN. -/
def NaNFree (e : Expr) : Prop := ∀ value pos, .number value pos ∈ e.nodes → value.isNaN = false

theorem naNFree_iff {e : Expr} :
    e.NaNFree ↔
      ∀ node ∈ e.nodes, ∀ value pos, node = .number value pos → value.isNaN = false := by
  constructor
  · rintro h node hnode value pos rfl
    exact h value pos hnode
  · intro h value pos hnode
    exact h _ hnode value pos rfl

theorem isEqual_self {e : Expr} (h : e.NaNFree) : e.isEqual e = true := by
  rw [naNFree_iff] at h
  induction e with
  | paren inner ih => exact ih (forall_mem_nodes_paren.1 h).1
  | unary op operand ih =>
    have hoperand := ih (forall_mem_nodes_unary.1 h).1
    simp [isEqual, hoperand]
  | binary op lhs rhs ihl ihr =>
    obtain ⟨hl, hr, -⟩ := forall_mem_nodes_binary.1 h
    simp [isEqual, ihl hl, ihr hr]
  | number value pos =>
    have hvalue := h _ (self_mem_nodes _) value pos rfl
    simp [isEqual, Number.isEqual, hvalue]
  | _ => simp [isEqual, ZonedTime.isEqual]

/-- A literal is not equal to one of another form. -/
theorem conversionLine?_of_isEqual {e e' : Expr} (h : e'.isEqual e = true) :
    conversionLine? e e' = none := by
  cases e with
  | string raw pos =>
    cases e' with
    | date | glob | regex => cases h
    | _ => rfl
  | _ => rfl

theorem conversionLines_of_isEqual {e e' : Expr} (h : e'.isEqual e = true) :
    conversionLines e e' = [] := by
  induction e generalizing e' with
  | paren inner ih =>
    cases e' with
    | paren inner' =>
      rw [isEqual] at h
      rw [conversionLines_paren, ih h, conversionLine?_of_isEqual h]
      rfl
    | _ => rfl
  | unary op operand ih =>
    cases e' with
    | unary op' operand' =>
      rw [isEqual, Bool.and_eq_true] at h
      rw [conversionLines_unary, ih h.2, conversionLine?_of_isEqual h.2]
      rfl
    | _ => rfl
  | binary op lhs rhs ihl ihr =>
    cases e' with
    | binary op' lhs' rhs' =>
      rw [isEqual, Bool.and_eq_true, Bool.and_eq_true] at h
      rw [conversionLines_binary, ihl h.1.2, ihr h.2, conversionLine?_of_isEqual h.1.2,
        conversionLine?_of_isEqual h.2]
      rfl
    | _ => rfl
  | _ => rfl

/-- A specialized expression equals the one that it came from exactly if no
literal was replaced. -/
theorem Specializes.isEqual_iff {e e' : Expr} (h : e.Specializes e') (hnumbers : e.NaNFree)
    (hlogical : e.isLogical = true) : e'.isEqual e = true ↔ conversionLines e e' = [] := by
  constructor
  · exact conversionLines_of_isEqual
  · intro hparts
    rw [h.eq_of_conversionLines_eq_nil (conversionLine?_of_isLogical hlogical e') hparts]
    exact isEqual_self hnumbers

end Expr

/-! ## Lines -/

namespace Event

/-- The lines about problems repeat the problems. -/
theorem filter_debug_map_record (events : List Event) :
    (events.map record).filter (·.level = .debug) =
      (problems events).map fun p => ⟨.debug, "Query error: " ++ p.message⟩ := by
  induction events with
  | nil => rfl
  | cons event events ih => cases event <;> simpa [record] using ih

/-- The lines about conversions. -/
def traces (events : List Event) : List LogRecord :=
  (events.map record).filter (·.level = .trace)

@[simp]
theorem traces_append (first second : List Event) :
    traces (first ++ second) = traces first ++ traces second := by
  simp [traces]

end Event

namespace Context

theorem traces_resolve (ctx : Context) (name : String) (pos : Position) :
    Event.traces (ctx.resolve name pos).2 = [] := by
  rw [resolve]
  split <;> rfl

theorem traces_checkUnary (op : Operator) (operand : FieldType) :
    Event.traces (checkUnary op operand) = [] := by
  rw [checkUnary]
  split_ifs <;> rfl

theorem traces_checkOperand (op : Operator) (side : Side) (type : FieldType) :
    Event.traces (checkOperand op side type) = [] := by
  rw [checkOperand]
  split
  · rfl
  · split_ifs <;> rfl

theorem traces_checkBinary (op : Operator) (lhs rhs : FieldType) :
    Event.traces (checkBinary op lhs rhs) = [] := by
  rw [checkBinary]
  split_ifs
  · rw [checkConnective]
    split_ifs <;> rfl
  · rw [Event.traces_append, Event.traces_append, traces_checkOperand, traces_checkOperand,
      checkValueTypes]
    split_ifs <;> rfl
  · rfl

/-- The step at a literal: the log names what it became. -/
theorem traces_convertOperand (ctx : Context) (op : Operator) (side : Side) (other e : Expr) :
    Event.traces (ctx.convertOperand op side other e).2 =
      (Expr.conversionLine? e (ctx.refineOperand op side other e)).toList := by
  cases hstring : isStringLiteral e with
  | false =>
    rw [convertOperand_of_not_isStringLiteral ctx op side other hstring]
    cases e with
    | string => cases hstring
    | _ => rfl
  | true =>
    rw [refineOperand_of_isStringLiteral ctx op side other hstring]
    obtain ⟨raw, pos, rfl⟩ := eq_string_of_isStringLiteral hstring
    obtain ⟨leaf, events, heq, hstep⟩ := literalStep ctx op side other raw pos
    rw [heq]
    cases hstep <;> rfl

/-- A literal by itself is not converted. -/
theorem conversionLine?_refine (ctx : Context) (e : Expr) :
    Expr.conversionLine? e (ctx.refine e).expr = none := by
  cases e <;> rfl

/-- A conversion changes nothing below the operand. -/
theorem counterparts_refineOperand (ctx : Context) (op : Operator) (side : Side)
    (other e : Expr) :
    e.counterparts (ctx.refineOperand op side other e) =
      e.counterparts (ctx.refine e).expr := by
  cases hstring : isStringLiteral e with
  | false => rw [refineOperand_of_not_isStringLiteral ctx op side other hstring]
  | true =>
    obtain ⟨raw, pos, rfl⟩ := eq_string_of_isStringLiteral hstring
    rfl

theorem conversionLines_refineOperand (ctx : Context) (op : Operator) (side : Side)
    (other e : Expr) :
    e.conversionLines (ctx.refineOperand op side other e) =
      e.conversionLines (ctx.refine e).expr := by
  rw [Expr.conversionLines, counterparts_refineOperand, ← Expr.conversionLines]

theorem refine_events_binary (ctx : Context) (op : Operator) (lhs rhs : Expr) :
    (ctx.refine (.binary op lhs rhs)).events =
      (ctx.refine lhs).events ++ (ctx.refine rhs).events ++
        ctx.ownEvents (.binary op lhs rhs) := by
  simp [refine_events, Expr.nodes]

/-- The lines about conversions are those about the literals in which an expression
and its refinement differ. -/
theorem traces_refine (ctx : Context) (e : Expr) :
    Event.traces (ctx.refine e).events = e.conversionLines (ctx.refine e).expr := by
  induction e with
  | identifier name pos => exact traces_resolve ctx name pos
  | paren inner ih =>
    rw [refine, Expr.conversionLines_paren, Event.traces_append, ih, conversionLine?_refine,
      checkParen]
    split_ifs <;> rfl
  | unary op operand ih =>
    rw [refine, Expr.conversionLines_unary, Event.traces_append, ih, conversionLine?_refine,
      traces_checkUnary]
    rfl
  | binary op lhs rhs ihl ihr =>
    rw [refine_events_binary, refine_binary_expr, Expr.conversionLines_binary,
      conversionLines_refineOperand, conversionLines_refineOperand, ownEvents,
      Event.traces_append, Event.traces_append, Event.traces_append, Event.traces_append,
      traces_checkBinary, List.nil_append, traces_convertOperand, traces_convertOperand, ihl, ihr]
  | _ => rfl

/-! ## Queries -/

theorem log_of_isLogical (ctx : Context) {query : Expr} (h : query.isLogical = true) :
    (ctx.process query).log = ⟨.debug, "Processing query: " ++ query.text⟩ ::
      ((ctx.refine query).events.map Event.record ++ [⟨.debug, "Processed query with " ++
        Numeral.text (ctx.problems query).length ++ " error(s)"⟩]) := by
  rw [process, if_pos h]
  rfl

theorem log_of_not_isLogical (ctx : Context) {query : Expr} (h : query.isLogical = false) :
    (ctx.process query).log =
      [⟨.debug, "Rejecting query: " ++ (Problem.notLogical query.formName).message⟩] := by
  rw [process, if_neg (by simp [h])]
  rfl

/-- The log of a query tells what its outcome is.  It opens with the query and
closes with the number of problems.  Of the lines in between, those of one level
repeat the problems in their order, and the others are about the literals in
which the query and the refined query differ; without a NaN in the query there is
none exactly if the two are equal.  A query without logical form has one line,
about its one problem. -/
theorem process_log (ctx : Context) (query : Expr) :
    let outcome := ctx.process query
    (query.isLogical = true → ∃ body : List LogRecord,
      outcome.log = ⟨.debug, "Processing query: " ++ query.text⟩ ::
          (body ++ [⟨.debug, "Processed query with " ++
            Numeral.text outcome.problems.length ++ " error(s)"⟩]) ∧
        body.filter (·.level = .debug) =
          outcome.problems.map (fun p => ⟨.debug, "Query error: " ++ p.message⟩) ∧
        body.filter (·.level = .trace) = query.conversionLines outcome.expr ∧
        (query.NaNFree →
          (outcome.expr.isEqual query = true ↔ body.filter (·.level = .trace) = []))) ∧
    (query.isLogical = false → ∃ p, outcome.problems = [p] ∧
      outcome.log = [⟨.debug, "Rejecting query: " ++ p.message⟩]) := by
  intro outcome
  constructor
  · intro hlogical
    obtain ⟨hexpr, hproblems⟩ := process_of_isLogical ctx hlogical
    have htraces : ((ctx.refine query).events.map Event.record).filter (·.level = .trace) =
        query.conversionLines outcome.expr := by
      rw [hexpr]
      exact traces_refine ctx query
    refine ⟨(ctx.refine query).events.map Event.record, ?_, ?_, htraces, ?_⟩
    · rw [hproblems]
      exact log_of_isLogical ctx hlogical
    · rw [hproblems]
      exact Event.filter_debug_map_record _
    · intro hnumbers
      rw [htraces]
      exact (specializes_process ctx query).isEqual_iff hnumbers hlogical
  · intro hlogical
    exact ⟨.notLogical query.formName, (process_of_not_isLogical ctx hlogical).2,
      log_of_not_isLogical ctx hlogical⟩

/-- The theorem at `Created >= "2017-07-16" AND (Size > 2 OR "a*" GLOB Name OR Name
REGEXP "(")`, where two literals are converted and a third one is not. -/
theorem process_log_of_two_conversions :
    let ctx : Context :=
      { schema :=
          (FieldTable.ofList [("Created", .date), ("Size", .number), ("Name", .string)]).schema
        zone := ZoneTable.zone ⟨0, []⟩ }
    let query := Expr.join .and ⟨1, 25⟩
      (.join .ge ⟨1, 9⟩ (.identifier "Created" ⟨1, 1⟩) (.string "2017-07-16" ⟨1, 12⟩))
      (.paren (.join .or ⟨1, 57⟩
        (.join .or ⟨1, 39⟩
          (.join .gt ⟨1, 35⟩ (.identifier "Size" ⟨1, 30⟩) (.number ⟨0x4000000000000000⟩ ⟨1, 37⟩))
          (.join .glob ⟨1, 47⟩ (.string "a*" ⟨1, 42⟩) (.identifier "Name" ⟨1, 52⟩)))
        (.join .regexp ⟨1, 65⟩ (.identifier "Name" ⟨1, 60⟩) (.string "(" ⟨1, 72⟩))))
    let outcome := ctx.process query
    query.isLogical = true ∧ query.NaNFree ∧ outcome.expr.isEqual query = false ∧
      query.conversionLines outcome.expr =
        [⟨.trace, "1:12: converted \"2017-07-16\" to date 2017-07-16 00:00:00 +00:00"⟩,
          ⟨.trace, "1:42: converted \"a*\" to glob"⟩] ∧
      ∃ body : List LogRecord,
        outcome.log = ⟨.debug, "Processing query: " ++ query.text⟩ ::
            (body ++ [⟨.debug, "Processed query with 1 error(s)"⟩]) ∧
          body.filter (·.level = .trace) = query.conversionLines outcome.expr ∧
          body.filter (·.level = .trace) ≠ [] := by
  intro ctx query outcome
  have hnumbers : query.NaNFree := by
    intro value pos hnode
    simp only [query, Expr.join, Expr.nodes, List.cons_append, List.nil_append, List.mem_cons,
      Expr.number.injEq, reduceCtorEq, false_or, or_false, List.not_mem_nil] at hnode
    rw [hnode.1]
    decide
  have hlines : query.conversionLines outcome.expr =
      [⟨.trace, "1:12: converted \"2017-07-16\" to date 2017-07-16 00:00:00 +00:00"⟩,
        ⟨.trace, "1:42: converted \"a*\" to glob"⟩] := by
    decide +kernel
  obtain ⟨body, hlog, -, htraces, hequal⟩ := (process_log ctx query).1 rfl
  have hne : body.filter (·.level = .trace) ≠ [] := by
    rw [htraces, hlines]
    exact List.cons_ne_nil _ _
  have hunequal : outcome.expr.isEqual query = false :=
    Bool.eq_false_iff.2 fun h => hne ((hequal hnumbers).1 h)
  have hcount : outcome.problems.length = 1 := by decide +kernel
  refine ⟨rfl, hnumbers, hunequal, hlines, body, ?_, htraces, hne⟩
  rw [hlog, hcount]
  rfl

end Context

end FilterQuery
