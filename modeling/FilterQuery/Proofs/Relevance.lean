import FilterQuery.Proofs.UnknownFields

/-!
# What a query depends on

The outcome of a query depends on the types of the fields that it names, and on
the date patterns only if it compares a text with a date.  Whatever else a
schema or the settings say is of no account.

There are four groups.

* Texts across from dates.  `Context.ComparesDateText` are the comparisons that
  read a text as a date.
* Two contexts.  `Context.AgreeOn` relates contexts that are the same to an
  expression.  What is true of an expression is true of its parts
  (`AgreeOn.of_parts`), so an induction shows that such contexts refine it in
  the same way (`AgreeOn.refine_eq`).
* Patterns that count.  Where a text is compared with a date, two settings that
  read nothing give two different reports (`exists_process_ne`).
* Queries.  `process_eq_of_agreeing` says all this of whole queries.
-/

namespace FilterQuery

namespace Context

/-! ## Texts across from dates -/

/-- A plain comparison of a date with a string literal. -/
def ComparesDateText (ctx : Context) : Expr → Prop
  | .binary op lhs rhs =>
    op.kind ∈ plainKinds ∧
      (ctx.typeOf lhs = .date ∧ isStringLiteral rhs = true ∨
        ctx.typeOf rhs = .date ∧ isStringLiteral lhs = true)
  | _ => False

instance (ctx : Context) : DecidablePred ctx.ComparesDateText
  | .binary _ _ _ => inferInstanceAs (Decidable (_ ∧ _))
  | .identifier _ _ | .string _ _ | .number _ _ | .date _ _ | .glob _ _ | .regex _ _
  | .unary _ _ | .paren _ => inferInstanceAs (Decidable False)

/-- Which comparisons these are, the schema alone tells. -/
theorem ComparesDateText.of_schema_eq {ctx ctx' : Context} (hschema : ctx'.schema = ctx.schema)
    {e : Expr} (h : ctx.ComparesDateText e) : ctx'.ComparesDateText e := by
  have htype : ∀ operand, ctx'.typeOf operand = ctx.typeOf operand := by
    intro operand
    cases operand with
    | identifier name pos => rw [typeOf, typeOf, hschema]
    | _ => rfl
  cases e with
  | binary op lhs rhs => simpa only [ComparesDateText, htype] using h
  | _ => cases h

/-! ## Two contexts -/

/-- Two contexts that are the same to an expression: its fields have the same
types, and if it compares a text with a date, dates are read in the same way. -/
structure AgreeOn (ctx ctx' : Context) (e : Expr) : Prop where
  fields : ∀ field ∈ e.fields, ctx'.schema.typeOf? field.1 = ctx.schema.typeOf? field.1
  dates : (∃ node ∈ e.nodes, ctx.ComparesDateText node) →
    ctx'.settings = ctx.settings ∧ ctx'.zone = ctx.zone

namespace AgreeOn

variable {ctx ctx' : Context}

theorem of_parts {e part : Expr} (h : ctx.AgreeOn ctx' e) (hfields : part.fields ⊆ e.fields)
    (hnodes : part.nodes ⊆ e.nodes) : ctx.AgreeOn ctx' part where
  fields field hfield := h.fields field (hfields hfield)
  dates hdates := by
    obtain ⟨node, hnode, hcompares⟩ := hdates
    exact h.dates ⟨node, hnodes hnode, hcompares⟩

theorem paren {inner : Expr} (h : ctx.AgreeOn ctx' (.paren inner)) : ctx.AgreeOn ctx' inner :=
  h.of_parts (List.Subset.refl _) (List.subset_append_left _ _)

theorem unary {op : Operator} {operand : Expr} (h : ctx.AgreeOn ctx' (.unary op operand)) :
    ctx.AgreeOn ctx' operand :=
  h.of_parts (List.Subset.refl _) (List.subset_append_left _ _)

theorem left {op : Operator} {lhs rhs : Expr} (h : ctx.AgreeOn ctx' (.binary op lhs rhs)) :
    ctx.AgreeOn ctx' lhs :=
  h.of_parts (List.subset_append_left _ _)
    (List.subset_append_of_subset_left _ (List.subset_append_left _ _))

theorem right {op : Operator} {lhs rhs : Expr} (h : ctx.AgreeOn ctx' (.binary op lhs rhs)) :
    ctx.AgreeOn ctx' rhs :=
  h.of_parts (List.subset_append_right _ _)
    (List.subset_append_of_subset_left _ (List.subset_append_right _ _))

theorem typeOf_eq {e : Expr} (h : ctx.AgreeOn ctx' e) : ctx'.typeOf e = ctx.typeOf e := by
  cases e with
  | identifier name pos => rw [typeOf, typeOf, h.fields (name, pos) List.mem_cons_self]
  | _ => rfl

theorem resolve_eq {name : String} {pos : Position}
    (h : ctx.AgreeOn ctx' (.identifier name pos)) :
    ctx'.resolve name pos = ctx.resolve name pos := by
  rw [resolve, resolve, h.fields (name, pos) List.mem_cons_self]

end AgreeOn

/-- The step at a literal: it goes the same way in two contexts that give the other
operand the same type and read dates in the same way if that is a date. -/
theorem LiteralStep.of_agree {ctx ctx' : Context} {op : Operator} {side : Side} {other : Expr}
    {raw : String} {pos : Position} {leaf : Expr} {events : List Event}
    (h : ctx.LiteralStep op side other raw pos leaf events)
    (htype : ctx'.typeOf other = ctx.typeOf other)
    (hdates : op.kind ∈ plainKinds → ctx.typeOf other = .date →
      ctx'.settings = ctx.settings ∧ ctx'.zone = ctx.zone) :
    ctx'.LiteralStep op side other raw pos leaf events := by
  cases h with
  | kept plain pattern =>
    refine .kept (fun hkind => ?_) pattern
    rw [htype]
    exact plain hkind
  | toDate kind date reads =>
    obtain ⟨hsettings, hzone⟩ := hdates kind date
    exact .toDate kind (htype.trans date) (by rw [hsettings, hzone, reads])
  | notDate kind date fails =>
    obtain ⟨hsettings, hzone⟩ := hdates kind date
    rw [← hsettings]
    exact .notDate kind (htype.trans date) (by rw [hsettings, hzone, fails])
  | toGlob kind pattern => exact .toGlob kind pattern
  | toRegex kind pattern compiles => exact .toRegex kind pattern compiles
  | notRegex kind pattern fails => exact .notRegex kind pattern fails

theorem convertOperand_of_agree {ctx ctx' : Context} {op : Operator} {side : Side}
    {other e : Expr} (htype : ctx'.typeOf other = ctx.typeOf other)
    (hdates : op.kind ∈ plainKinds → ctx.typeOf other = .date → isStringLiteral e = true →
      ctx'.settings = ctx.settings ∧ ctx'.zone = ctx.zone) :
    ctx'.convertOperand op side other e = ctx.convertOperand op side other e := by
  cases hstring : isStringLiteral e with
  | false =>
    rw [convertOperand_of_not_isStringLiteral ctx op side other hstring,
      convertOperand_of_not_isStringLiteral ctx' op side other hstring]
  | true =>
    have hdates' := fun hkind hdate => hdates hkind hdate hstring
    obtain ⟨raw, pos, rfl⟩ := eq_string_of_isStringLiteral hstring
    obtain ⟨leaf, events, heq, hstep⟩ := literalStep ctx op side other raw pos
    rw [heq, (hstep.of_agree htype hdates').convertOperand_eq]

namespace AgreeOn

variable {ctx ctx' : Context}

theorem convertOperand_left {op : Operator} {lhs rhs : Expr}
    (h : ctx.AgreeOn ctx' (.binary op lhs rhs)) :
    ctx'.convertOperand op .lhs rhs (ctx.refine lhs).expr =
      ctx.convertOperand op .lhs rhs (ctx.refine lhs).expr := by
  apply convertOperand_of_agree h.right.typeOf_eq
  intro hkind hdate hstring
  rw [isStringLiteral_refine] at hstring
  exact h.dates ⟨_, Expr.self_mem_nodes _, hkind, .inr ⟨hdate, hstring⟩⟩

theorem convertOperand_right {op : Operator} {lhs rhs : Expr}
    (h : ctx.AgreeOn ctx' (.binary op lhs rhs)) :
    ctx'.convertOperand op .rhs lhs (ctx.refine rhs).expr =
      ctx.convertOperand op .rhs lhs (ctx.refine rhs).expr := by
  apply convertOperand_of_agree h.left.typeOf_eq
  intro hkind hdate hstring
  rw [isStringLiteral_refine] at hstring
  exact h.dates ⟨_, Expr.self_mem_nodes _, hkind, .inl ⟨hdate, hstring⟩⟩

/-- They refine the expression in the same way: to the same expression, and with the
same events. -/
theorem refine_eq {e : Expr} (h : ctx.AgreeOn ctx' e) : ctx'.refine e = ctx.refine e := by
  induction e with
  | identifier name pos => rw [refine, refine, h.resolve_eq]
  | paren inner ih => rw [refine, refine, ih h.paren]
  | unary op operand ih => rw [refine, refine, ih h.unary]
  | binary op lhs rhs ihl ihr =>
    rw [refine, refine, refineBinary_eq, refineBinary_eq, ihl h.left, ihr h.right,
      h.left.typeOf_eq, h.right.typeOf_eq, h.convertOperand_left, h.convertOperand_right]
  | _ => rfl

theorem process_eq {query : Expr} (h : ctx.AgreeOn ctx' query) :
    ctx'.process query = ctx.process query := by
  rw [process, process, h.refine_eq]

end AgreeOn

/-! ## Patterns that count -/

theorem read?_eq_none_of_ofText? {pattern : String} (h : DatePattern.ofText? pattern = none)
    (zone : Zone) (raw : String) : DateText.read? zone ⟨pattern, pattern⟩ raw = none := by
  simp [DateText.read?, DateText.wallTime?, DateText.day?, h]

/-- The report of a text that is no date describes the patterns of the settings. -/
theorem eq_invalidDate_of_mem_dateProblems {ctx : Context} {e : Expr} {p : Problem}
    (h : p ∈ ctx.dateProblems e) :
    ∃ pos raw, p = .invalidDate pos raw (DatePattern.describe ctx.settings.dateFormat)
      (DatePattern.describe ctx.settings.dateTimeFormat) := by
  cases e with
  | string raw pos => exact ⟨pos, raw, eq_of_mem_check h⟩
  | _ => cases h

theorem eq_invalidRegex_of_mem_regexProblems {e : Expr} {p : Problem} (h : p ∈ regexProblems e) :
    ∃ pos raw reason, p = .invalidRegex pos raw reason := by
  cases e with
  | string raw pos =>
    rw [regexProblems] at h
    split at h
    · cases h
    · exact ⟨pos, raw, _, List.mem_singleton.1 h⟩
  | _ => cases h

theorem describe_of_mem_comparisonProblems {ctx : Context} {op : Operator} {lhs rhs : Expr}
    {pos : Position} {raw day dayTime : String}
    (h : .invalidDate pos raw day dayTime ∈ ctx.comparisonProblems op lhs rhs) :
    day = DatePattern.describe ctx.settings.dateFormat := by
  have hdates : ∀ e, .invalidDate pos raw day dayTime ∈ ctx.dateProblems e →
      day = DatePattern.describe ctx.settings.dateFormat := by
    intro e he
    obtain ⟨_, _, heq⟩ := eq_invalidDate_of_mem_dateProblems he
    cases heq
    rfl
  rw [comparisonProblems, List.mem_append] at h
  rcases h with h | h
  · cases eq_of_mem_check h
  · split at h
    · rcases List.mem_append.1 h with h | h <;> cases eq_of_mem_check h
    · rcases List.mem_append.1 h with h | h
      · rcases List.mem_append.1 h with h | h <;> cases eq_of_mem_check h
      · obtain ⟨_, _, _, heq⟩ := eq_invalidRegex_of_mem_regexProblems h
        cases heq
    · rcases List.mem_append.1 h with h | h <;> exact hdates _ (List.mem_ite_nil_right.1 h).2

theorem describe_of_mem_nodeProblems {ctx : Context} {e : Expr} {pos : Position}
    {raw day dayTime : String} (h : .invalidDate pos raw day dayTime ∈ ctx.nodeProblems e) :
    day = DatePattern.describe ctx.settings.dateFormat := by
  cases e with
  | binary op lhs rhs =>
    rw [nodeProblems] at h
    split at h
    · cases eq_of_mem_check h
    · cases eq_of_mem_check h
    · cases List.mem_singleton.1 h
    · exact describe_of_mem_comparisonProblems h
  | _ => grind [nodeProblems]

/-- Where a text is compared with a date, settings that read nothing report it. -/
theorem ComparesDateText.exists_mem_nodeProblems {ctx : Context} {e : Expr}
    (h : ctx.ComparesDateText e)
    (hread : ∀ raw, DateText.read? ctx.zone ctx.settings raw = none) :
    ∃ pos raw, .invalidDate pos raw (DatePattern.describe ctx.settings.dateFormat)
      (DatePattern.describe ctx.settings.dateTimeFormat) ∈ ctx.nodeProblems e := by
  cases e with
  | binary op lhs rhs =>
    obtain ⟨hkind, hsides⟩ := h
    rw [← ownProblems_eq_nodeProblems, ownProblems_binary,
      problems_convertOperand_of_plain ctx hkind, problems_convertOperand_of_plain ctx hkind]
    rcases hsides with ⟨hdate, hstring⟩ | ⟨hdate, hstring⟩
    · obtain ⟨raw, pos, rfl⟩ := eq_string_of_isStringLiteral hstring
      exact ⟨pos, raw, by simp [hdate, dateProblems, hread]⟩
    · obtain ⟨raw, pos, rfl⟩ := eq_string_of_isStringLiteral hstring
      exact ⟨pos, raw, by simp [hdate, dateProblems, hread]⟩
  | _ => cases h

/-- Where a text is compared with a date, settings that read nothing with other
descriptions give another outcome. -/
theorem process_ne_of_describe_ne {ctx ctx' : Context} {query : Expr}
    (hlogical : query.isLogical = true) (h : ∃ node ∈ query.nodes, ctx.ComparesDateText node)
    (hread : ∀ raw, DateText.read? ctx.zone ctx.settings raw = none)
    (hne : DatePattern.describe ctx.settings.dateFormat ≠
      DatePattern.describe ctx'.settings.dateFormat) :
    ctx.process query ≠ ctx'.process query := by
  intro heq
  obtain ⟨node, hnode, hcompares⟩ := h
  obtain ⟨pos, raw, hmem⟩ := hcompares.exists_mem_nodeProblems hread
  have hproblem : .invalidDate pos raw (DatePattern.describe ctx.settings.dateFormat)
      (DatePattern.describe ctx.settings.dateTimeFormat) ∈ (ctx.process query).problems := by
    rw [(process_of_isLogical ctx hlogical).2, problems_eq_flatMap]
    refine List.mem_flatMap.2 ⟨node, hnode, ?_⟩
    rwa [ownProblems_eq_nodeProblems]
  rw [heq, (process_of_isLogical ctx' hlogical).2, problems_eq_flatMap] at hproblem
  obtain ⟨node', -, hmem'⟩ := List.mem_flatMap.1 hproblem
  rw [ownProblems_eq_nodeProblems] at hmem'
  exact hne (describe_of_mem_nodeProblems hmem')

/-- The date patterns count for every query that compares a text with a date: of two
settings that read nothing and are described differently, one gives another outcome
than the settings at hand. -/
theorem exists_process_ne (schema : Schema) (settings : Settings) (zone : Zone) {query : Expr}
    (hlogical : query.isLogical = true)
    (h : ∃ node ∈ query.nodes, ComparesDateText ⟨schema, settings, zone⟩ node) :
    ∃ settings', process ⟨schema, settings', zone⟩ query ≠
      process ⟨schema, settings, zone⟩ query := by
  obtain ⟨node, hnode, hcompares⟩ := h
  have hne : ∀ pattern, DatePattern.ofText? pattern = none →
      DatePattern.describe pattern ≠ DatePattern.describe settings.dateFormat →
      process ⟨schema, ⟨pattern, pattern⟩, zone⟩ query ≠
        process ⟨schema, settings, zone⟩ query := by
    intro pattern hpattern hdescribe
    let blind : Context := ⟨schema, ⟨pattern, pattern⟩, zone⟩
    have hblind : blind.ComparesDateText node := hcompares.of_schema_eq rfl
    exact process_ne_of_describe_ne hlogical ⟨node, hnode, hblind⟩
      (read?_eq_none_of_ofText? hpattern zone) hdescribe
  by_cases hdescribe : DatePattern.describe "%" = DatePattern.describe settings.dateFormat
  · refine ⟨⟨"%Q", "%Q"⟩, hne "%Q" (by decide) ?_⟩
    rw [← hdescribe]
    decide
  · exact ⟨⟨"%", "%"⟩, hne "%" (by decide) hdescribe⟩

/-! ## Queries -/

/-- A field that a query does not name may be defined, redefined or removed. -/
theorem agreeOn_of_lookup? {table table' : FieldTable} {settings : Settings} {zone : Zone}
    {query : Expr} {name : String} (hname : name ∉ query.fields.map Prod.fst)
    (h : ∀ other, other ≠ name → table'.lookup? other = table.lookup? other) :
    AgreeOn ⟨table.schema, settings, zone⟩ ⟨table'.schema, settings, zone⟩ query where
  fields field hfield := by
    apply h
    rintro rfl
    exact hname (List.mem_map_of_mem hfield)
  dates _ := ⟨rfl, rfl⟩

/-- The outcome of a query depends on the types of the fields that it names, and on
the settings only if it compares a text with a date.  So two schemas that agree on
these fields give the same outcome, and in a table of fields all others may change.
The patterns cannot be left out where a text is compared with a date: there some
other patterns give another outcome. -/
theorem process_eq_of_agreeing (zone : Zone) (query : Expr) :
    (∀ (schema schema' : Schema) (settings settings' : Settings),
      (∀ field ∈ query.fields, schema'.typeOf? field.1 = schema.typeOf? field.1) →
      (settings' = settings ∨
        ¬∃ node ∈ query.nodes, ComparesDateText ⟨schema, settings, zone⟩ node) →
      process ⟨schema', settings', zone⟩ query = process ⟨schema, settings, zone⟩ query) ∧
    (∀ (table : FieldTable) (settings : Settings) (name : String) (type : FieldType),
      name ∉ query.fields.map Prod.fst →
      process ⟨(table.define name type).schema, settings, zone⟩ query =
          process ⟨table.schema, settings, zone⟩ query ∧
        process ⟨(table.undefine name).schema, settings, zone⟩ query =
          process ⟨table.schema, settings, zone⟩ query) ∧
    (∀ (schema : Schema) (settings : Settings), query.isLogical = true →
      (∃ node ∈ query.nodes, ComparesDateText ⟨schema, settings, zone⟩ node) →
      ∃ settings', process ⟨schema, settings', zone⟩ query ≠
        process ⟨schema, settings, zone⟩ query) := by
  refine ⟨?_, ?_, fun schema settings => exists_process_ne schema settings zone⟩
  · intro schema schema' settings settings' hfields hsettings
    have hagree : AgreeOn ⟨schema, settings, zone⟩ ⟨schema', settings', zone⟩ query := by
      refine ⟨hfields, fun hdates => ⟨?_, rfl⟩⟩
      exact hsettings.resolve_right fun hnone => hnone hdates
    exact hagree.process_eq
  · intro table settings name type hname
    constructor
    · apply AgreeOn.process_eq
      apply agreeOn_of_lookup? hname
      intro other hother
      rw [FieldTable.lookup?_define, if_neg hother]
    · apply AgreeOn.process_eq
      apply agreeOn_of_lookup? hname
      intro other hother
      rw [FieldTable.lookup?_undefine, if_neg hother]

/-- The theorem at `Created >= Updated AND "a*" GLOB Name`, where a field that is not
named has another type and the date patterns are others, and at the first comparison
with a text, where the patterns count. -/
theorem process_eq_of_agreeing_on_three_fields :
    let zone := ZoneTable.zone ⟨0, []⟩
    let table := FieldTable.ofList
      [("Created", .date), ("Updated", .date), ("Name", .string), ("Size", .number)]
    let table' := FieldTable.ofList
      [("Size", .boolean), ("Name", .string), ("Updated", .date), ("Created", .date)]
    let settings : Settings := ⟨"%d/%m/%Y", "%d/%m/%Y %H:%M"⟩
    let query := Expr.join .and ⟨1, 20⟩
      (.join .ge ⟨1, 9⟩ (.identifier "Created" ⟨1, 1⟩) (.identifier "Updated" ⟨1, 12⟩))
      (.join .glob ⟨1, 29⟩ (.string "a*" ⟨1, 24⟩) (.identifier "Name" ⟨1, 34⟩))
    let dated := Expr.join .ge ⟨1, 9⟩ (.identifier "Created" ⟨1, 1⟩) (.string "soon" ⟨1, 12⟩)
    table'.lookup? "Size" ≠ table.lookup? "Size" ∧
      (process ⟨table'.schema, settings, zone⟩ query).expr ≠ query ∧
      process ⟨table'.schema, settings, zone⟩ query =
        process ⟨table.schema, .standard, zone⟩ query ∧
      process ⟨(table.undefine "Size").schema, .standard, zone⟩ dated =
        process ⟨table.schema, .standard, zone⟩ dated ∧
      ∃ settings', process ⟨table.schema, settings', zone⟩ dated ≠
        process ⟨table.schema, .standard, zone⟩ dated := by
  intro zone table table' settings query dated
  have hfields : ∀ field ∈ query.fields,
      table'.schema.typeOf? field.1 = table.schema.typeOf? field.1 := by decide
  have hdates : ¬∃ node ∈ query.nodes,
      ComparesDateText ⟨table.schema, .standard, zone⟩ node := by decide
  have hdated : ∃ node ∈ dated.nodes,
      ComparesDateText ⟨table.schema, .standard, zone⟩ node := by decide
  obtain ⟨hschemas, -, -⟩ := process_eq_of_agreeing zone query
  obtain ⟨-, htables, hpatterns⟩ := process_eq_of_agreeing zone dated
  refine ⟨by decide, by decide, hschemas _ _ _ _ hfields (.inr hdates), ?_,
    hpatterns _ _ rfl hdated⟩
  exact (htables table .standard "Size" .number (by decide)).2

end Context

end FilterQuery
