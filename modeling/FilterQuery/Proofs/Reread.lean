import FilterQuery.Proofs.Fixpoint
import FilterQuery.Proofs.ReadBack
import FilterQuery.Proofs.RefinedTree
import FilterQuery.Proofs.StandardPattern
import FilterQuery.Proofs.WallClock

/-!
# Reading a refined query again

A refined query is printed as a query text in which every converted literal
is a quoted string again.  `Expr.unrefine` is the query that such a text
stands for.  Refining it gives the refined query back, with the same
problems, although a date that was written without a time of day now comes
with one and is read by the other pattern.

There are four groups.

* Dates.  `DateText.read?_queryText` says that the quoted text of a date that
  was read is read as the same date: the text names the wall time of the date
  (`wallTime?_queryText`), and looking that up finds the date again
  (`resolve?_wall_of_read?`).  `DateText.read?_printed` adds what is printed.
* Printed queries.  `Expr.unrefine` and `Expr.IsUnrefined`, the queries that
  a text can stand for.
* Operands.  `LiteralStep.reread` is the step at a literal.  `LooksLike` is
  what an operator sees of one operand when it converts the other one, and
  `looksLike_unrefine_refineOperand` says that it sees the same again.
* Whole expressions.  `Rereads` holds of every expression without converted
  literals, by induction (`rereads`), and `process_unrefine` carries it over
  to queries.
-/

namespace FilterQuery

/-! ## Dates -/

namespace DateText

/-- Looking up the wall time of an instant that was read finds that instant
again.  For a time of day this is how it was found, and for the start of a day
it is the last step of the walk to it. -/
theorem resolve?_wall_of_read? {zone : Zone} {settings : Settings} {raw : String} {t : ZonedTime}
    (h : read? zone settings raw = some t) : zone.resolve? t.wall = some t := by
  rw [read?] at h
  split at h
  · rw [Zone.wall_of_resolve? h]
    exact h
  · obtain ⟨d, _, hstart⟩ := Option.bind_eq_some_iff.1 h
    exact Zone.resolve?_of_startOfDay? hstart

/-- The quoted text of a date that was read names its wall time.  A text with a
time of day is quoted as it was, and the start of a day is a whole second. -/
theorem wallTime?_queryText {zone : Zone} {settings : Settings}
    (hformat : settings.dateTimeFormat = Settings.standard.dateTimeFormat) {raw : String}
    {t : ZonedTime} (h : read? zone settings raw = some t) :
    wallTime? Settings.standard.dateTimeFormat t.queryText = some t.wall := by
  rw [read?, hformat] at h
  rw [t.queryText_eq]
  cases hwall : wallTime? Settings.standard.dateTimeFormat raw with
  | some w =>
    have hresolve : zone.resolve? w = some t := by simpa [hwall] using h
    rw [Zone.wall_of_resolve? hresolve, ofList_standardText_of_wallTime? hwall, hwall]
  | none =>
    have hday : (day? settings.dateFormat raw).bind zone.startOfDay? = some t := by
      simpa [hwall] using h
    obtain ⟨d, hd, hstart⟩ := Option.bind_eq_some_iff.1 hday
    obtain ⟨hdate, hnano⟩ := Zone.wall_of_startOfDay? hstart
    have hrange : t.wall.date.inRange = true := by
      rw [hdate]
      exact inRange_of_day? hd
    exact wallTime?_ofList_standardText hrange (.inl hnano)

/-- The quoted text of a date that was read is read as that date. -/
theorem read?_queryText {zone : Zone} {settings : Settings}
    (hformat : settings.dateTimeFormat = Settings.standard.dateTimeFormat) {raw : String}
    {t : ZonedTime} (h : read? zone settings raw = some t) :
    read? zone settings t.queryText = some t := by
  rw [read?, hformat, wallTime?_queryText hformat h]
  exact resolve?_wall_of_read? h

/-- The standard pattern writes what a query quotes. -/
theorem write?_standard (t : ZonedTime) :
    write? Settings.standard.dateTimeFormat t.wall.date (some t.wall.time) = some t.queryText := by
  rw [write?, DatePattern.ofText?_standard, Option.bind_some, DatePattern.write?_standardItems,
    Option.map_some, t.queryText_eq]

/-- A date that was read survives printing.  The standard pattern writes its wall
time as a text, a query quotes that very text, and it is read as the same date,
by the pattern with a time of day and whatever the other pattern is. -/
theorem read?_printed {zone : Zone} {settings : Settings}
    (hformat : settings.dateTimeFormat = Settings.standard.dateTimeFormat) {raw : String}
    {t : ZonedTime} (h : read? zone settings raw = some t) (pos : Position) :
    ∃ text, write? Settings.standard.dateTimeFormat t.wall.date (some t.wall.time) = some text ∧
      (Expr.date t pos).text = Text.Quoted.quote text ∧
      wallTime? settings.dateTimeFormat text = some t.wall ∧
      read? zone settings text = some t := by
  refine ⟨t.queryText, write?_standard t, rfl, ?_, read?_queryText hformat h⟩
  rw [hformat]
  exact wallTime?_queryText hformat h

/-- The theorem at `19/10/2008` in a zone whose clocks went from midnight to one
o'clock on that day. -/
theorem read?_printed_of_skipped_midnight :
    let zone := (ZoneTable.ofChange (-10800) 1224385200 (-7200)).zone
    let settings : Settings := ⟨"%d/%m/%Y", Settings.standard.dateTimeFormat⟩
    let t : ZonedTime := zone.localize ⟨1224385200, 0, Zone.zero_lt_nanos⟩
    read? zone settings "19/10/2008" = some t ∧
      (Expr.date t ⟨1, 1⟩).text = "\"2008-10-19 01:00:00\"" ∧
      ∃ text, write? Settings.standard.dateTimeFormat t.wall.date (some t.wall.time) = some text ∧
        (Expr.date t ⟨1, 1⟩).text = Text.Quoted.quote text ∧
        wallTime? settings.dateTimeFormat text = some t.wall ∧
        read? zone settings text = some t := by
  intro zone settings t
  have hformat : settings.dateTimeFormat = Settings.standard.dateTimeFormat := rfl
  have h : read? zone settings "19/10/2008" = some t := by decide +kernel
  exact ⟨h, by decide +kernel, read?_printed hformat h ⟨1, 1⟩⟩

end DateText

/-! ## Printed queries -/

namespace Expr

/-- The query that the text of an expression stands for: every converted
literal is the string literal that it is quoted as. -/
def unrefine : Expr → Expr
  | .date value pos => .string value.queryText pos
  | .glob pattern pos => .string pattern pos
  | .regex value pos => .string value.source pos
  | .paren inner => .paren inner.unrefine
  | .unary op operand => .unary op operand.unrefine
  | .binary op lhs rhs => .binary op lhs.unrefine rhs.unrefine
  | e => e

/-- Whether an expression is a literal that only refinement makes. -/
def isConverted : Expr → Bool
  | .date _ _ | .glob _ _ | .regex _ _ => true
  | _ => false

/-- No part of an expression is a converted literal. -/
def IsUnrefined (e : Expr) : Prop := ∀ node ∈ e.nodes, node.isConverted = false

instance (e : Expr) : Decidable e.IsUnrefined :=
  inferInstanceAs (Decidable (∀ node ∈ e.nodes, node.isConverted = false))

theorem IsUnrefined.isConverted {e : Expr} (h : e.IsUnrefined) : e.isConverted = false :=
  h e e.self_mem_nodes

/-- The text stays the same. -/
theorem text_unrefine (e : Expr) : e.unrefine.text = e.text := by
  induction e with
  | paren inner ih => simp only [unrefine, text, ih]
  | unary op operand ih => simp only [unrefine, text, ih]
  | binary op lhs rhs ihl ihr => simp only [unrefine, text, ihl, ihr]
  | _ => rfl

@[simp]
theorem pos_unrefine (e : Expr) : e.unrefine.pos = e.pos := by
  induction e with
  | paren inner ih => exact ih
  | binary op lhs rhs ihl _ => exact ihl
  | _ => rfl

theorem isLogical_unrefine (e : Expr) : e.unrefine.isLogical = e.isLogical := by
  cases e <;> rfl

theorem unrefine_of_not_isLogical {e : Expr} (hlogical : e.isLogical = false)
    (hconverted : e.isConverted = false) : e.unrefine = e := by
  cases e with
  | paren | unary | binary => cases hlogical
  | date | glob | regex => cases hconverted
  | _ => rfl

end Expr

namespace Context

/-! ## Operands -/

variable {ctx : Context}

/-- A literal that was converted is converted the same way from the text that
it is quoted as, and one that was not is still itself. -/
theorem LiteralStep.reread
    (hformat : ctx.settings.dateTimeFormat = Settings.standard.dateTimeFormat) {op : Operator}
    {side : Side} {other : Expr} {raw : String} {pos : Position} {leaf : Expr}
    {events : List Event} (h : ctx.LiteralStep op side other raw pos leaf events) :
    ∃ raw' events', leaf.unrefine = .string raw' pos ∧
      ctx.LiteralStep op side other raw' pos leaf events' ∧
        Event.problems events' = Event.problems events := by
  cases h with
  | kept plain pattern => exact ⟨raw, _, rfl, .kept plain pattern, rfl⟩
  | notDate kind date fails => exact ⟨raw, _, rfl, .notDate kind date fails, rfl⟩
  | notRegex kind pattern fails => exact ⟨raw, _, rfl, .notRegex kind pattern fails, rfl⟩
  | toGlob kind pattern => exact ⟨raw, _, rfl, .toGlob kind pattern, rfl⟩
  | @toDate value kind date reads =>
    exact ⟨value.queryText, _, rfl, .toDate kind date (DateText.read?_queryText hformat reads), rfl⟩
  | @toRegex value kind pattern compiles =>
    refine ⟨value.source, _, rfl, .toRegex kind pattern ?_, rfl⟩
    rw [source_of_compile compiles, compiles]

/-- All that an operator sees of one operand when it converts the other one. -/
structure LooksLike (ctx : Context) (e' e : Expr) : Prop where
  type : ctx.typeOf e' = ctx.typeOf e
  string : isStringLiteral e' = isStringLiteral e

/-- An expression looks the same after it is refined and printed. -/
theorem looksLike_unrefine_refine (ctx : Context) {e : Expr} (h : e.isConverted = false) :
    ctx.LooksLike (ctx.refine e).expr.unrefine e := by
  cases e with
  | date | glob | regex => cases h
  | _ => exact ⟨rfl, rfl⟩

/-- It does so too if the operator above converts it. -/
theorem looksLike_unrefine_refineOperand (ctx : Context) (op : Operator) (side : Side)
    (other : Expr) {e : Expr} (h : e.isConverted = false) :
    ctx.LooksLike (ctx.refineOperand op side other e).unrefine e := by
  cases hstring : isStringLiteral e with
  | true =>
    obtain ⟨raw, pos, rfl⟩ := eq_string_of_isStringLiteral hstring
    obtain ⟨leaf, events, heq, hstep⟩ := literalStep ctx op side other raw pos
    rw [refineOperand_of_isStringLiteral ctx op side other hstring, heq]
    cases hstep <;> exact ⟨rfl, rfl⟩
  | false =>
    rw [refineOperand_of_not_isStringLiteral ctx op side other hstring]
    exact looksLike_unrefine_refine ctx h

/-! ## Whole expressions -/

/-- Refining what a refined expression is printed as gives it back, with the
problems that it had. -/
def Rereads (ctx : Context) (e : Expr) : Prop :=
  (ctx.refine (ctx.refine e).expr.unrefine).expr = (ctx.refine e).expr ∧
    ctx.problems (ctx.refine e).expr.unrefine = ctx.problems e

/-- The step at an operand.  A string literal is converted to the same literal,
and anything else rereads by itself. -/
theorem Rereads.refineOperand
    (hformat : ctx.settings.dateTimeFormat = Settings.standard.dateTimeFormat) {e : Expr}
    (h : ctx.Rereads e) (hconverted : e.isConverted = false) (op : Operator) (side : Side)
    {other other' : Expr} (hother : ctx.LooksLike other' other) :
    let printed := (ctx.refineOperand op side other e).unrefine
    ctx.refineOperand op side other' printed = ctx.refineOperand op side other e ∧
      Event.problems (ctx.convertOperand op side other' printed).2 =
        Event.problems (ctx.convertOperand op side other e).2 ∧
      ctx.problems printed = ctx.problems e := by
  intro printed
  cases hstring : isStringLiteral e with
  | true =>
    have hcongr := convertOperand_congr ctx op side hother.type fun _ _ => hother.string
    obtain ⟨raw, pos, rfl⟩ := eq_string_of_isStringLiteral hstring
    obtain ⟨leaf, events, heq, hstep⟩ := literalStep ctx op side other raw pos
    obtain ⟨raw', events', hraw', hstep', hproblems⟩ := hstep.reread hformat
    have hleaf : ctx.refineOperand op side other (.string raw pos) = leaf := by
      rw [refineOperand_of_isStringLiteral ctx op side other hstring, heq]
    have hprinted : printed = .string raw' pos := by
      rw [← hraw', ← hleaf]
    rw [hprinted, refineOperand_of_isStringLiteral ctx op side other' rfl, hleaf, hcongr,
      hstep'.convertOperand_eq, heq]
    exact ⟨rfl, hproblems, rfl⟩
  | false =>
    have hstring' : isStringLiteral printed = false := by
      rw [(looksLike_unrefine_refineOperand ctx op side other hconverted).string, hstring]
    have hprinted : printed = (ctx.refine e).expr.unrefine := by
      rw [← refineOperand_of_not_isStringLiteral ctx op side other hstring]
    rw [refineOperand_of_not_isStringLiteral ctx op side other' hstring',
      refineOperand_of_not_isStringLiteral ctx op side other hstring,
      convertOperand_of_not_isStringLiteral ctx op side other' hstring',
      convertOperand_of_not_isStringLiteral ctx op side other hstring, hprinted]
    exact ⟨h.1, rfl, h.2⟩

/-- The step at an operator.  Each operand sees the other one as it was, and
the checks see the same types. -/
theorem Rereads.binary
    (hformat : ctx.settings.dateTimeFormat = Settings.standard.dateTimeFormat)
    {op : Operator} {lhs rhs : Expr} (hl : ctx.Rereads lhs) (hr : ctx.Rereads rhs)
    (hlconverted : lhs.isConverted = false) (hrconverted : rhs.isConverted = false) :
    ctx.Rereads (.binary op lhs rhs) := by
  have hllooks := looksLike_unrefine_refineOperand ctx op .lhs rhs hlconverted
  have hrlooks := looksLike_unrefine_refineOperand ctx op .rhs lhs hrconverted
  obtain ⟨hlexpr, hlconvert, hlproblems⟩ := hl.refineOperand hformat hlconverted op .lhs hrlooks
  obtain ⟨hrexpr, hrconvert, hrproblems⟩ := hr.refineOperand hformat hrconverted op .rhs hllooks
  rw [Rereads, refine_binary_expr, Expr.unrefine]
  constructor
  · rw [refine_binary_expr, hlexpr, hrexpr]
  · rw [problems_binary, problems_binary, hlproblems, hrproblems, ownProblems_binary,
      ownProblems_binary, hllooks.type, hrlooks.type, hlconvert, hrconvert]

theorem Rereads.paren {inner : Expr} (h : ctx.Rereads inner)
    (hconverted : inner.isConverted = false) : ctx.Rereads (.paren inner) := by
  have hlooks := looksLike_unrefine_refine ctx hconverted
  constructor
  · simp only [refine, Expr.unrefine, h.1]
  · simp only [refine, Expr.unrefine, problems_paren, h.2, ownProblems, ownEvents, hlooks.type,
      Expr.pos_unrefine, pos_refine]

theorem Rereads.unary {op : Operator} {operand : Expr} (h : ctx.Rereads operand)
    (hconverted : operand.isConverted = false) : ctx.Rereads (.unary op operand) := by
  have hlooks := looksLike_unrefine_refine ctx hconverted
  constructor
  · simp only [refine, Expr.unrefine, h.1]
  · simp only [refine, Expr.unrefine, problems_unary, h.2, ownProblems, ownEvents, hlooks.type]

/-- Every expression without converted literals rereads. -/
theorem rereads (hformat : ctx.settings.dateTimeFormat = Settings.standard.dateTimeFormat)
    {e : Expr} (h : e.IsUnrefined) : ctx.Rereads e := by
  induction e with
  | paren inner ih =>
    have hinner : inner.IsUnrefined := (Expr.forall_mem_nodes_paren.1 h).1
    exact (ih hinner).paren hinner.isConverted
  | unary op operand ih =>
    have hoperand : operand.IsUnrefined := (Expr.forall_mem_nodes_unary.1 h).1
    exact (ih hoperand).unary hoperand.isConverted
  | binary op lhs rhs ihl ihr =>
    obtain ⟨hl, hr, -⟩ : lhs.IsUnrefined ∧ rhs.IsUnrefined ∧ _ :=
      Expr.forall_mem_nodes_binary.1 h
    exact (ihl hl).binary hformat (ihr hr) hl.isConverted hr.isConverted
  | date | glob | regex => cases h.isConverted
  | _ => exact ⟨rfl, rfl⟩

/-- Printing a refined query and refining what was printed.  The printed query
has the text of the refined one, and it comes out as the same refined query
with the same problems. -/
theorem process_unrefine (ctx : Context) (query : Expr)
    (hformat : ctx.settings.dateTimeFormat = Settings.standard.dateTimeFormat)
    (h : query.IsUnrefined) :
    let refined := (ctx.process query).expr
    refined.unrefine.text = refined.text ∧
      (ctx.process refined.unrefine).expr = refined ∧
        (ctx.process refined.unrefine).problems = (ctx.process query).problems := by
  intro refined
  refine ⟨Expr.text_unrefine refined, ?_⟩
  cases hlogical : query.isLogical with
  | true =>
    obtain ⟨hexpr, hproblems⟩ := process_of_isLogical ctx hlogical
    have hrefined : refined = (ctx.refine query).expr := hexpr
    have hprinted : refined.unrefine.isLogical = true := by
      rw [Expr.isLogical_unrefine, hrefined, isLogical_refine, hlogical]
    obtain ⟨hexpr', hproblems'⟩ := process_of_isLogical ctx hprinted
    rw [hexpr', hproblems', hproblems, hrefined]
    exact rereads hformat h
  | false =>
    have hrefined : refined = query := (process_of_not_isLogical ctx hlogical).1
    have hprinted : refined.unrefine = query := by
      rw [hrefined, Expr.unrefine_of_not_isLogical hlogical h.isConverted]
    rw [hprinted]
    exact ⟨rfl, rfl⟩

/-- The theorem at `Created >= "2008-10-19" AND "a*" GLOB Name AND NOT (Name
REGEXP "(")`, in a zone whose clocks went from midnight to one o'clock on that
day.  The date is printed with the hour at which its day started, and the
pattern that does not compile is reported each time. -/
theorem process_unrefine_of_skipped_midnight :
    let ctx : Context :=
      { schema := (FieldTable.ofList [("Created", .date), ("Name", .string)]).schema
        zone := ZoneTable.zone ⟨-10800, [⟨1224385200, -7200⟩]⟩ }
    let query (created : String) := Expr.join .and ⟨1, 42⟩
      (.join .and ⟨1, 25⟩
        (.join .ge ⟨1, 9⟩ (.identifier "Created" ⟨1, 1⟩) (.string created ⟨1, 12⟩))
        (.join .glob ⟨1, 34⟩ (.string "a*" ⟨1, 29⟩) (.identifier "Name" ⟨1, 39⟩)))
      (.negation ⟨1, 46⟩ (.paren
        (.join .regexp ⟨1, 56⟩ (.identifier "Name" ⟨1, 51⟩) (.string "(" ⟨1, 63⟩))))
    let refined := (ctx.process (query "2008-10-19")).expr
    (query "2008-10-19").IsUnrefined ∧ refined.unrefine = query "2008-10-19 01:00:00" ∧
      refined.unrefine.text = refined.text ∧
        (ctx.process refined.unrefine).expr = refined ∧
          (ctx.process refined.unrefine).problems =
            (ctx.process (query "2008-10-19")).problems := by
  intro ctx query refined
  have hunrefined : (query "2008-10-19").IsUnrefined := by decide
  have hprinted : refined.unrefine = query "2008-10-19 01:00:00" := by decide +kernel
  exact ⟨hunrefined, hprinted, process_unrefine ctx (query "2008-10-19") rfl hunrefined⟩

end Context

end FilterQuery
