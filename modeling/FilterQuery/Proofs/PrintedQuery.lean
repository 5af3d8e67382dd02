import FilterQuery.Proofs.Log
import FilterQuery.Proofs.ReadBack

/-!
# The text of a refined query

A refined query is printed almost as it was written.  Globs and regular
expressions are quoted with the text that they were made from, and so is a date
that came with a time of day, because the standard pattern writes what it reads.
Only a date without a time of day looks different: it is printed with the time
at which its day starts.

There are three groups.

* Texts.  `DateText.spellOut` writes a day with its time, and
  `DateText.queryText_of_read?` says that this is how the date is printed.
* Operands.  `Context.spellOutOperand` does so with the texts that are compared
  with dates, and `LiteralStep.text_eq` is the step at a literal.
* Queries.  `text_refine` is the induction over expressions.  If no day is read,
  there is nothing to spell out (`spellOut_eq_self`), and `process_text` joins
  the two.
-/

namespace FilterQuery

open Calendar

/-! ## Texts -/

namespace DateText

/-- A text that the pattern for days reads, as the start of its day in the
standard pattern.  A text with a time of day, or one that is no date, stays as it
is. -/
def spellOut (zone : Zone) (settings : Settings) (raw : String) : String :=
  match wallTime? settings.dateTimeFormat raw with
  | some _ => raw
  | none =>
    match (day? settings.dateFormat raw).bind zone.startOfDay? with
    | some t => String.ofList (DatePattern.standardText t.wall)
    | none => raw

variable {zone : Zone} {settings : Settings} {raw : String}

/-- A date that was read is printed with its day spelled out.  If it came with a
time of day, that is the text it was read from. -/
theorem queryText_of_read? {t : ZonedTime}
    (hformat : settings.dateTimeFormat = Settings.standard.dateTimeFormat)
    (h : read? zone settings raw = some t) : t.queryText = spellOut zone settings raw := by
  rw [t.queryText_eq, spellOut]
  cases hwall : wallTime? settings.dateTimeFormat raw with
  | some w =>
    have hresolve : zone.resolve? w = some t := by simpa [read?, hwall] using h
    rw [Zone.wall_of_resolve? hresolve]
    exact ofList_standardText_of_wallTime? (hformat ▸ hwall)
  | none =>
    have hday : (day? settings.dateFormat raw).bind zone.startOfDay? = some t := by
      simpa [read?, hwall] using h
    rw [hday]

theorem spellOut_of_read?_eq_none (h : read? zone settings raw = none) :
    spellOut zone settings raw = raw := by
  rw [spellOut]
  cases hwall : wallTime? settings.dateTimeFormat raw with
  | some w => rfl
  | none =>
    have hday : (day? settings.dateFormat raw).bind zone.startOfDay? = none := by
      simpa [read?, hwall] using h
    rw [hday]

theorem spellOut_of_isSome (h : (wallTime? settings.dateTimeFormat raw).isSome = true) :
    spellOut zone settings raw = raw := by
  obtain ⟨w, hwall⟩ := Option.isSome_iff_exists.1 h
  rw [spellOut, hwall]

end DateText

namespace Context

/-! ## Operands -/

/-- An operand of `op`, across from `other`, with its day spelled out if it is a
text that is compared with a date. -/
def spellOutOperand (ctx : Context) (op : Operator) (other : Expr) : Expr → Expr
  | .string raw pos =>
    if op.kind ∈ plainKinds ∧ ctx.typeOf other = .date then
      .string (DateText.spellOut ctx.zone ctx.settings raw) pos
    else .string raw pos
  | e => e

theorem spellOutOperand_of_not_isStringLiteral (ctx : Context) (op : Operator) (other : Expr)
    {e : Expr} (h : isStringLiteral e = false) : ctx.spellOutOperand op other e = e := by
  cases e with
  | string => cases h
  | _ => rfl

/-- The step at a literal: it is printed as it was, but for a day. -/
theorem LiteralStep.text_eq {ctx : Context}
    (hformat : ctx.settings.dateTimeFormat = Settings.standard.dateTimeFormat) {op : Operator}
    {side : Side} {other : Expr} {raw : String} {pos : Position} {leaf : Expr}
    {events : List Event} (h : ctx.LiteralStep op side other raw pos leaf events) :
    leaf.text = (ctx.spellOutOperand op other (.string raw pos)).text := by
  rw [spellOutOperand]
  cases h with
  | kept plain => rw [if_neg fun hdate => plain hdate.1 hdate.2]
  | toDate kind date reads =>
    rw [if_pos ⟨kind, date⟩, Expr.text, Expr.text, DateText.queryText_of_read? hformat reads]
  | notDate kind date fails =>
    rw [if_pos ⟨kind, date⟩, DateText.spellOut_of_read?_eq_none fails]
  | toGlob kind =>
    rw [if_neg (by simp [kind, plainKinds])]
    rfl
  | toRegex kind _ compiles =>
    rw [if_neg (by simp [kind, plainKinds]), Expr.text, Expr.text, source_of_compile compiles]
  | notRegex kind => rw [if_neg (by simp [kind, plainKinds])]

/-! ## Queries -/

/-- The expression in which every text that a comparison reads as a day is spelled
out. -/
def spellOut (ctx : Context) : Expr → Expr
  | .paren inner => .paren (ctx.spellOut inner)
  | .unary op operand => .unary op (ctx.spellOut operand)
  | .binary op lhs rhs =>
    .binary op (ctx.spellOutOperand op rhs (ctx.spellOut lhs))
      (ctx.spellOutOperand op lhs (ctx.spellOut rhs))
  | e => e

theorem isStringLiteral_spellOut (ctx : Context) (e : Expr) :
    isStringLiteral (ctx.spellOut e) = isStringLiteral e := by
  cases e <;> rfl

theorem text_refineOperand {ctx : Context}
    (hformat : ctx.settings.dateTimeFormat = Settings.standard.dateTimeFormat) (op : Operator)
    (side : Side) (other : Expr) {e : Expr}
    (h : (ctx.refine e).expr.text = (ctx.spellOut e).text) :
    (ctx.refineOperand op side other e).text =
      (ctx.spellOutOperand op other (ctx.spellOut e)).text := by
  cases hstring : isStringLiteral e with
  | false =>
    have hstring' : isStringLiteral (ctx.spellOut e) = false := by
      rw [isStringLiteral_spellOut, hstring]
    rw [refineOperand_of_not_isStringLiteral ctx op side other hstring,
      spellOutOperand_of_not_isStringLiteral ctx op other hstring', h]
  | true =>
    rw [refineOperand_of_isStringLiteral ctx op side other hstring]
    obtain ⟨raw, pos, rfl⟩ := eq_string_of_isStringLiteral hstring
    obtain ⟨leaf, events, heq, hstep⟩ := literalStep ctx op side other raw pos
    rw [heq]
    exact hstep.text_eq hformat

/-- A refined expression is printed as it was, with its days spelled out. -/
theorem text_refine {ctx : Context}
    (hformat : ctx.settings.dateTimeFormat = Settings.standard.dateTimeFormat) (e : Expr) :
    (ctx.refine e).expr.text = (ctx.spellOut e).text := by
  induction e with
  | paren inner ih => simp only [refine, spellOut, Expr.text, ih]
  | unary op operand ih => simp only [refine, spellOut, Expr.text, ih]
  | binary op lhs rhs ihl ihr =>
    rw [refine_binary_expr, spellOut, Expr.text, Expr.text,
      text_refineOperand hformat op .lhs rhs ihl, text_refineOperand hformat op .rhs lhs ihr]
  | _ => rfl

/-- Whether a literal was read as a day: it became a date, and the pattern with a
time of day does not read its text. -/
def readsDay (ctx : Context) : Expr × Expr → Bool
  | (.string raw _, .date _ _) =>
    (DateText.wallTime? ctx.settings.dateTimeFormat raw).isNone
  | _ => false

/-- The step at an operand. -/
theorem spellOutOperand_eq_self {ctx : Context} {op : Operator} {side : Side} {other e : Expr}
    (h : ctx.readsDay (e, ctx.refineOperand op side other e) = false) :
    ctx.spellOutOperand op other e = e := by
  cases e with
  | string raw pos =>
    rw [spellOutOperand]
    split_ifs with hdate
    · obtain ⟨hkind, htype⟩ := hdate
      cases hread : DateText.read? ctx.zone ctx.settings raw with
      | none => rw [DateText.spellOut_of_read?_eq_none hread]
      | some t =>
        have hstep : ctx.LiteralStep op side other raw pos (.date t pos) [.toDate pos raw t] :=
          .toDate hkind htype hread
        rw [refineOperand_of_isStringLiteral ctx op side other rfl, hstep.convertOperand_eq,
          readsDay, Option.isNone_eq_false_iff] at h
        rw [DateText.spellOut_of_isSome h]
    · rfl
  | _ => rfl

/-- Where no day was read, there is nothing to spell out. -/
theorem spellOut_eq_self {ctx : Context} {e : Expr}
    (h : ∀ pair ∈ e.counterparts (ctx.refine e).expr, ctx.readsDay pair = false) :
    ctx.spellOut e = e := by
  induction e with
  | paren inner ih =>
    rw [spellOut, ih fun pair hpair => h pair (List.mem_append_left _ hpair)]
  | unary op operand ih =>
    rw [spellOut, ih fun pair hpair => h pair (List.mem_append_left _ hpair)]
  | binary op lhs rhs ihl ihr =>
    rw [refine_binary_expr, Expr.counterparts, counterparts_refineOperand,
      counterparts_refineOperand, List.forall_mem_append, List.forall_mem_append,
      List.forall_mem_cons, List.forall_mem_singleton] at h
    obtain ⟨⟨hl, hr⟩, hlhs, hrhs⟩ := h
    rw [spellOut, ihl hl, ihr hr, spellOutOperand_eq_self hlhs, spellOutOperand_eq_self hrhs]
  | _ => rfl

/-- Refinement changes the text of a query at its days alone.  The refined query is
printed as the query was, with every text that was read as a day spelled out; if
no text was, it is printed as the query was. -/
theorem process_text (ctx : Context) (query : Expr)
    (hformat : ctx.settings.dateTimeFormat = Settings.standard.dateTimeFormat) :
    let refined := (ctx.process query).expr
    refined.text = (ctx.spellOut query).text ∧
      ((∀ pair ∈ query.counterparts refined, ctx.readsDay pair = false) →
        refined.text = query.text) := by
  intro refined
  cases hlogical : query.isLogical with
  | true =>
    have hrefined : refined = (ctx.refine query).expr := (process_of_isLogical ctx hlogical).1
    rw [hrefined, text_refine hformat]
    refine ⟨rfl, fun h => ?_⟩
    rw [spellOut_eq_self h]
  | false =>
    have hrefined : refined = query := (process_of_not_isLogical ctx hlogical).1
    have hspell : ctx.spellOut query = query := by
      cases query with
      | paren | unary | binary => cases hlogical
      | _ => rfl
    rw [hrefined, hspell]
    exact ⟨rfl, fun _ => rfl⟩

/-- The theorem at `At >= "19/10/2008" AND "2008-10-20 12:00:00" > At AND "a*" GLOB
By`, in a zone whose clocks went from midnight to one o'clock on the first of the
two days, and at what follows the first `AND`. -/
theorem process_text_of_skipped_midnight :
    let ctx : Context :=
      { schema := (FieldTable.ofList [("At", .date), ("By", .string)]).schema
        settings := ⟨"%d/%m/%Y", Settings.standard.dateTimeFormat⟩
        zone := (ZoneTable.ofChange (-10800) 1224385200 (-7200)).zone }
    let rest := Expr.join .and ⟨1, 51⟩
      (.join .gt ⟨1, 46⟩ (.string "2008-10-20 12:00:00" ⟨1, 24⟩) (.identifier "At" ⟨1, 48⟩))
      (.join .glob ⟨1, 60⟩ (.string "a*" ⟨1, 55⟩) (.identifier "By" ⟨1, 65⟩))
    let query := Expr.join .and ⟨1, 20⟩
      (.join .ge ⟨1, 4⟩ (.identifier "At" ⟨1, 1⟩) (.string "19/10/2008" ⟨1, 7⟩)) rest
    (ctx.process query).expr.text = (ctx.spellOut query).text ∧
      (ctx.spellOut query).text =
        "At >= \"2008-10-19 01:00:00\" AND \"2008-10-20 12:00:00\" > At AND \"a*\" GLOB By" ∧
      (∀ pair ∈ rest.counterparts (ctx.process rest).expr, ctx.readsDay pair = false) ∧
      (ctx.process rest).expr ≠ rest ∧ (ctx.process rest).expr.text = rest.text := by
  intro ctx rest query
  have hformat : ctx.settings.dateTimeFormat = Settings.standard.dateTimeFormat := rfl
  have hdays : ∀ pair ∈ rest.counterparts (ctx.process rest).expr, ctx.readsDay pair = false := by
    decide +kernel
  exact ⟨(process_text ctx query hformat).1, by decide +kernel, hdays, by decide +kernel,
    (process_text ctx rest hformat).2 hdays⟩

end Context

end FilterQuery
