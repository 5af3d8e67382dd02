import FilterQuery.Proofs.PostOrder

/-!
# Fields that a schema does not have

A field that the schema does not have is reported where it stands, and that is
all it does to a query.  The rest of the query fares as if the field were a
text: no rule tells a type that could not be found from a text.

There are four groups.

* Types.  `FieldType.checked` is what the rules see of a type.  It confuses a
  type that could not be found with a text, and nothing else.
* Two contexts.  `Context.Alike` relates contexts whose types look the same to
  the rules.  They refine an expression to the same one (`Alike.refine_expr`)
  and have the same problems with every node but a field
  (`Alike.nodeProblems_eq`).
* Fields.  `Expr.fields` lists the fields that an expression names from left to
  right.  The reports of unknown fields are in this order
  (`filter_unknownField_problems`), and the other problems are those of any
  context that is alike and has all the fields (`filter_otherProblems`).
* Queries.  `Schema.supplement` gives a schema the fields that it lacks, and
  `process_supplement` compares the two outcomes.
-/

namespace FilterQuery

/-! ## Types -/

/-- A type as the rules see it: one that could not be found counts as a text. -/
def FieldType.checked : FieldType → FieldType
  | .invalid => .string
  | type => type

theorem FieldType.checked_eq_boolean_iff {type : FieldType} :
    type.checked = .boolean ↔ type = .boolean := by
  cases type <;> simp [checked]

theorem FieldType.checked_eq_date_iff {type : FieldType} :
    type.checked = .date ↔ type = .date := by
  cases type <;> simp [checked]

namespace Context

theorem operandProblems_checked (op : Operator) (side : Side) (type : FieldType) :
    operandProblems op side type.checked = operandProblems op side type := by
  cases type <;> rfl

/-! ## Two contexts -/

/-- Two contexts that read dates alike and whose types look the same to the
rules. -/
structure Alike (ctx ctx' : Context) : Prop where
  settings : ctx'.settings = ctx.settings
  zone : ctx'.zone = ctx.zone
  checked : ∀ e, (ctx'.typeOf e).checked = (ctx.typeOf e).checked

namespace Alike

variable {ctx ctx' : Context}

theorem typeOf_eq_boolean_iff (h : ctx.Alike ctx') (e : Expr) :
    ctx'.typeOf e = .boolean ↔ ctx.typeOf e = .boolean := by
  rw [← FieldType.checked_eq_boolean_iff, h.checked, FieldType.checked_eq_boolean_iff]

theorem typeOf_eq_date_iff (h : ctx.Alike ctx') (e : Expr) :
    ctx'.typeOf e = .date ↔ ctx.typeOf e = .date := by
  rw [← FieldType.checked_eq_date_iff, h.checked, FieldType.checked_eq_date_iff]

theorem operandProblems_eq (h : ctx.Alike ctx') (op : Operator) (side : Side) (e : Expr) :
    operandProblems op side (ctx'.typeOf e) = operandProblems op side (ctx.typeOf e) := by
  rw [← operandProblems_checked, h.checked, operandProblems_checked]

theorem dateProblems_eq (h : ctx.Alike ctx') (e : Expr) :
    ctx'.dateProblems e = ctx.dateProblems e := by
  cases e with
  | string raw pos => rw [dateProblems, dateProblems, h.settings, h.zone]
  | _ => rfl

theorem convertDate_eq (h : ctx.Alike ctx') (e : Expr) :
    ctx'.convertDate e = ctx.convertDate e := by
  cases e with
  | string raw pos => rw [convertDate, convertDate, h.settings, h.zone]
  | _ => rfl

theorem convertOperand_eq (h : ctx.Alike ctx') (op : Operator) (side : Side) (other e : Expr) :
    ctx'.convertOperand op side other e = ctx.convertOperand op side other e := by
  simp only [convertOperand, h.typeOf_eq_date_iff, h.convertDate_eq]

/-- They refine an expression to the same one. -/
theorem refine_expr (h : ctx.Alike ctx') (e : Expr) :
    (ctx'.refine e).expr = (ctx.refine e).expr := by
  induction e with
  | paren inner ih => simp only [refine, ih]
  | unary op operand ih => simp only [refine, ih]
  | binary op lhs rhs ihl ihr =>
    simp only [refine_binary_expr, refineOperand, h.convertOperand_eq, ihl, ihr]
  | _ => rfl

theorem comparisonProblems_eq (h : ctx.Alike ctx') (op : Operator) (lhs rhs : Expr) :
    ctx'.comparisonProblems op lhs rhs = ctx.comparisonProblems op lhs rhs := by
  simp only [comparisonProblems, h.typeOf_eq_boolean_iff, h.typeOf_eq_date_iff,
    h.operandProblems_eq, h.dateProblems_eq]

/-- They have the same problems with a node that is not a field. -/
theorem nodeProblems_eq (h : ctx.Alike ctx') {e : Expr} (hlogical : e.isLogical = true) :
    ctx'.nodeProblems e = ctx.nodeProblems e := by
  cases e with
  | paren inner => simp only [nodeProblems, ne_eq, h.typeOf_eq_boolean_iff]
  | unary op operand => simp only [nodeProblems, ne_eq, h.typeOf_eq_boolean_iff]
  | binary op lhs rhs =>
    simp only [nodeProblems, ne_eq, h.typeOf_eq_boolean_iff, h.comparisonProblems_eq]
  | _ => cases hlogical

end Alike

end Context

/-! ## Fields -/

/-- The fields that an expression names, with their positions, from left to
right. -/
def Expr.fields : Expr → List (String × Position)
  | .identifier name pos => [(name, pos)]
  | .paren inner => inner.fields
  | .unary _ operand => operand.fields
  | .binary _ lhs rhs => lhs.fields ++ rhs.fields
  | _ => []

/-- Whether a problem is a field that the schema does not have. -/
def Problem.isUnknownField : Problem → Bool
  | .unknownField _ _ => true
  | _ => false

namespace Context

theorem filter_unknownField_dateProblems (ctx : Context) (e : Expr) :
    (ctx.dateProblems e).filter Problem.isUnknownField = [] := by
  cases e with
  | string raw pos =>
    rw [dateProblems]
    split_ifs <;> rfl
  | _ => rfl

theorem filter_unknownField_regexProblems (e : Expr) :
    (regexProblems e).filter Problem.isUnknownField = [] := by
  cases e with
  | string raw pos =>
    rw [regexProblems]
    split <;> rfl
  | _ => rfl

theorem filter_unknownField_operandProblems (op : Operator) (side : Side) (type : FieldType) :
    (operandProblems op side type).filter Problem.isUnknownField = [] := by
  cases type <;> rfl

theorem filter_unknownField_comparisonProblems (ctx : Context) (op : Operator) (lhs rhs : Expr) :
    (ctx.comparisonProblems op lhs rhs).filter Problem.isUnknownField = [] := by
  rw [comparisonProblems, List.filter_append]
  have hvalues : (if ctx.typeOf lhs = .boolean ∨ ctx.typeOf rhs = .boolean then
      [Problem.comparisonOfBoolean op.pos] else []).filter Problem.isUnknownField = [] := by
    split_ifs <;> rfl
  rw [hvalues, List.nil_append]
  split
  · simp only [List.filter_append, filter_unknownField_operandProblems, List.append_nil]
  · simp only [List.filter_append, filter_unknownField_operandProblems,
      filter_unknownField_regexProblems, List.append_nil]
  · rw [List.filter_append]
    split_ifs <;> simp only [filter_unknownField_dateProblems, List.filter_nil, List.append_nil]

/-- Only a field is reported as one that the schema does not have. -/
theorem filter_unknownField_nodeProblems (ctx : Context) {e : Expr} (h : e.isLogical = true) :
    (ctx.nodeProblems e).filter Problem.isUnknownField = [] := by
  cases e with
  | paren inner =>
    rw [nodeProblems]
    split_ifs <;> rfl
  | unary op operand =>
    rw [nodeProblems]
    split_ifs <;> rfl
  | binary op lhs rhs =>
    rw [nodeProblems]
    split
    · split_ifs <;> rfl
    · split_ifs <;> rfl
    · rfl
    · exact ctx.filter_unknownField_comparisonProblems op lhs rhs
  | _ => cases h

theorem filter_otherProblems_nodeProblems (ctx : Context) {e : Expr} (h : e.isLogical = true) :
    (ctx.nodeProblems e).filter (!·.isUnknownField) = ctx.nodeProblems e := by
  rw [List.filter_eq_self]
  intro p hp
  have hknown := List.filter_eq_nil_iff.1 (ctx.filter_unknownField_nodeProblems h) p hp
  simp [hknown]

/-- The fields of an expression that the schema does not have. -/
def unknownFields (ctx : Context) (e : Expr) : List (String × Position) :=
  e.fields.filter fun field => (ctx.schema.typeOf? field.1).isNone

theorem problems_identifier (ctx : Context) (name : String) (pos : Position) :
    ctx.problems (.identifier name pos) =
      if (ctx.schema.typeOf? name).isNone then [.unknownField pos name] else [] := by
  have hnodes : (Expr.identifier name pos).nodes = [.identifier name pos] := rfl
  rw [problems_eq_flatMap, hnodes, List.flatMap_singleton, ownProblems_eq_nodeProblems,
    nodeProblems]

/-- The problems of an expression with its fields: one for each that the schema
does not have, from left to right. -/
theorem filter_unknownField_problems (ctx : Context) (e : Expr) :
    (ctx.problems e).filter Problem.isUnknownField =
      (ctx.unknownFields e).map fun field => .unknownField field.2 field.1 := by
  induction e with
  | identifier name pos =>
    have hfields : ctx.unknownFields (.identifier name pos) =
        if (ctx.schema.typeOf? name).isNone then [(name, pos)] else [] := List.filter_cons
    rw [problems_identifier, hfields]
    split_ifs <;> rfl
  | paren inner ih =>
    rw [problems_paren, ownProblems_eq_nodeProblems, List.filter_append, ih,
      filter_unknownField_nodeProblems ctx rfl, List.append_nil]
    rfl
  | unary op operand ih =>
    rw [problems_unary, ownProblems_eq_nodeProblems, List.filter_append, ih,
      filter_unknownField_nodeProblems ctx rfl, List.append_nil]
    rfl
  | binary op lhs rhs ihl ihr =>
    rw [problems_binary, ownProblems_eq_nodeProblems, List.filter_append, List.filter_append,
      ihl, ihr, filter_unknownField_nodeProblems ctx rfl, List.append_nil, ← List.map_append,
      unknownFields, unknownFields, unknownFields, Expr.fields, List.filter_append]
  | _ => rfl

/-- The other problems of an expression are those that it has in a context that
is alike and has all its fields. -/
theorem filter_otherProblems {ctx ctx' : Context} (h : ctx.Alike ctx') {e : Expr}
    (hfields : ctx'.unknownFields e = []) :
    (ctx.problems e).filter (!·.isUnknownField) = ctx'.problems e := by
  induction e with
  | identifier name pos =>
    have hfield : ¬(ctx'.schema.typeOf? name).isNone = true := by
      simpa [unknownFields, Expr.fields] using hfields
    rw [problems_identifier, problems_identifier, if_neg hfield]
    split_ifs <;> rfl
  | paren inner ih =>
    rw [problems_paren, problems_paren, ownProblems_eq_nodeProblems, ownProblems_eq_nodeProblems,
      List.filter_append, ih hfields, filter_otherProblems_nodeProblems ctx rfl,
      h.nodeProblems_eq rfl]
  | unary op operand ih =>
    rw [problems_unary, problems_unary, ownProblems_eq_nodeProblems, ownProblems_eq_nodeProblems,
      List.filter_append, ih hfields, filter_otherProblems_nodeProblems ctx rfl,
      h.nodeProblems_eq rfl]
  | binary op lhs rhs ihl ihr =>
    rw [unknownFields, Expr.fields, List.filter_append, List.append_eq_nil_iff] at hfields
    rw [problems_binary, problems_binary, ownProblems_eq_nodeProblems,
      ownProblems_eq_nodeProblems, List.filter_append, List.filter_append, ihl hfields.1,
      ihr hfields.2, filter_otherProblems_nodeProblems ctx rfl, h.nodeProblems_eq rfl]
  | _ => rfl

end Context

/-! ## Queries -/

/-- The schema in which those of some names that it does not have are texts. -/
def Schema.supplement (s : Schema) (names : List String) : Schema where
  typeOf? name := (s.typeOf? name).or (if name ∈ names then some .string else none)

/-- The context in which the fields of a query that the schema does not have are
texts. -/
def Context.supplement (ctx : Context) (query : Expr) : Context :=
  { ctx with schema := ctx.schema.supplement (query.fields.map Prod.fst) }

namespace Context

theorem typeOf?_supplement (ctx : Context) (query : Expr) (name : String) :
    (ctx.supplement query).schema.typeOf? name =
      (ctx.schema.typeOf? name).or
        (if name ∈ query.fields.map Prod.fst then some .string else none) :=
  rfl

theorem alike_supplement (ctx : Context) (query : Expr) : ctx.Alike (ctx.supplement query) where
  settings := rfl
  zone := rfl
  checked := by
    intro e
    cases e with
    | identifier name pos =>
      rw [typeOf, typeOf, typeOf?_supplement]
      cases ctx.schema.typeOf? name with
      | some type => rfl
      | none => split_ifs <;> rfl
    | _ => rfl

theorem unknownFields_supplement (ctx : Context) (query : Expr) :
    (ctx.supplement query).unknownFields query = [] := by
  rw [unknownFields, List.filter_eq_nil_iff]
  intro field hfield
  have hname : field.1 ∈ query.fields.map Prod.fst := List.mem_map_of_mem hfield
  rw [typeOf?_supplement, if_pos hname]
  cases ctx.schema.typeOf? field.1 <;> simp

/-- An unknown field is reported and does nothing else.  If the fields that the
schema does not have were texts, the refined query would be the same, and the
problems would be the same but for the reports of these fields.  There is one
such report for each place where the query names such a field, from left to
right. -/
theorem process_supplement (ctx : Context) (query : Expr) (h : query.isLogical = true) :
    (ctx.process query).expr = ((ctx.supplement query).process query).expr ∧
      (ctx.process query).problems.filter (!·.isUnknownField) =
        ((ctx.supplement query).process query).problems ∧
      (ctx.process query).problems.filter Problem.isUnknownField =
        (query.fields.filter fun field => (ctx.schema.typeOf? field.1).isNone).map
          fun field => .unknownField field.2 field.1 := by
  obtain ⟨hexpr, hproblems⟩ := process_of_isLogical ctx h
  obtain ⟨hexpr', hproblems'⟩ := process_of_isLogical (ctx.supplement query) h
  have halike := ctx.alike_supplement query
  rw [hexpr, hproblems, hexpr', hproblems']
  exact ⟨(halike.refine_expr query).symm,
    filter_otherProblems halike (ctx.unknownFields_supplement query),
    ctx.filter_unknownField_problems query⟩

/-- The theorem at `Bogus > "soon" AND NOT (Created = Bogus OR Nope REGEXP "(" OR
Size GLOB Bogus)`, where only the pattern that does not compile and the size are
at fault besides the two unknown fields. -/
theorem process_supplement_of_two_fields :
    let ctx : Context :=
      { schema := (FieldTable.ofList [("Created", .date), ("Size", .number)]).schema
        zone := ZoneTable.zone ⟨0, []⟩ }
    let query := Expr.join .and ⟨1, 16⟩
      (.join .gt ⟨1, 7⟩ (.identifier "Bogus" ⟨1, 1⟩) (.string "soon" ⟨1, 9⟩))
      (.negation ⟨1, 20⟩ (.paren (.join .or ⟨1, 58⟩
        (.join .or ⟨1, 41⟩
          (.join .eq ⟨1, 33⟩ (.identifier "Created" ⟨1, 25⟩) (.identifier "Bogus" ⟨1, 35⟩))
          (.join .regexp ⟨1, 49⟩ (.identifier "Nope" ⟨1, 44⟩) (.string "(" ⟨1, 56⟩)))
        (.join .glob ⟨1, 66⟩ (.identifier "Size" ⟨1, 61⟩) (.identifier "Bogus" ⟨1, 71⟩)))))
    query.isLogical = true ∧
      (ctx.process query).expr = ((ctx.supplement query).process query).expr ∧
      (ctx.process query).problems.filter (!·.isUnknownField) =
        ((ctx.supplement query).process query).problems ∧
      (ctx.process query).problems.filter Problem.isUnknownField =
        [.unknownField ⟨1, 1⟩ "Bogus", .unknownField ⟨1, 35⟩ "Bogus",
          .unknownField ⟨1, 44⟩ "Nope", .unknownField ⟨1, 71⟩ "Bogus"] := by
  intro ctx query
  obtain ⟨hexpr, hothers, hunknown⟩ := process_supplement ctx query rfl
  refine ⟨rfl, hexpr, hothers, ?_⟩
  rw [hunknown]
  decide +kernel

end Context

end FilterQuery
