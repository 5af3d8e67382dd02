/-!
# Field types and schemas

The types that an operand of a query can have, and the schemas that give the
fields of a query their types.  Refinement sees a schema only through
`Schema.typeOf?`; a `FieldTable` is the schema of a caller that adds and
removes fields as it goes.
-/

namespace FilterQuery

/-- The type of an operand. -/
inductive FieldType where
  | boolean
  | string
  | number
  | date
  /-- No type could be found, because of a problem already reported. -/
  | invalid
  deriving DecidableEq, Repr, Inhabited

namespace FieldType

/-- The types in the order in which messages list them. -/
def all : List FieldType := [.boolean, .string, .number, .date, .invalid]

/-- The name of the type in messages and in stored schemas. -/
def name : FieldType → String
  | boolean => "Boolean"
  | string => "String"
  | number => "Number"
  | date => "Date"
  | invalid => "Invalid"

/-- The type with a given name. -/
def ofName? (name : String) : Option FieldType := all.find? (·.name == name)

/-- Whether an operand of this type may stand in a comparison. -/
def isValueType (t : FieldType) : Bool := t != .boolean

/-- Every type is found under its name. -/
theorem ofName?_name (t : FieldType) : ofName? t.name = some t := by
  cases t <;> decide

end FieldType

/-- What refinement knows about fields: the type of each declared name. -/
structure Schema where
  /-- The declared type of a field, or nothing if there is no such field. -/
  typeOf? : String → Option FieldType

/-- Declared fields with their types, at most one entry for a name when built
with `define`. -/
structure FieldTable where
  entries : List (String × FieldType) := []
  deriving DecidableEq, Repr, Inhabited

namespace FieldTable

/-- The table without fields. -/
def empty : FieldTable := {}

/-- The type of a field. -/
def lookup? (t : FieldTable) (name : String) : Option FieldType :=
  t.entries.lookup name

/-- The table without a field. -/
def undefine (t : FieldTable) (name : String) : FieldTable :=
  ⟨t.entries.filter (·.1 != name)⟩

/-- The table with a field added, or given another type. -/
def define (t : FieldTable) (name : String) (type : FieldType) : FieldTable :=
  ⟨(name, type) :: (t.undefine name).entries⟩

/-- A field that was removed is gone, and the others are as they were. -/
theorem lookup?_undefine (t : FieldTable) (name other : String) :
    (t.undefine name).lookup? other = if other = name then none else t.lookup? other := by
  obtain ⟨entries⟩ := t
  simp only [undefine, lookup?]
  induction entries with
  | nil => simp
  | cons entry entries ih =>
    obtain ⟨key, type⟩ := entry
    by_cases hk : key = name
    · by_cases ho : other = name
      · simpa [hk, ho] using ih
      · simpa [hk, ho, List.lookup_cons, beq_false_of_ne ho] using ih
    · by_cases ho : other = key
      · simp [hk, ho]
      · simpa [hk, ho, List.lookup_cons, beq_false_of_ne ho] using ih

/-- A field has the type it was given last, and the others are as they
were. -/
theorem lookup?_define (t : FieldTable) (name other : String) (type : FieldType) :
    (t.define name type).lookup? other =
      if other = name then some type else t.lookup? other := by
  by_cases h : other = name
  · simp [define, lookup?, h]
  · have hu := lookup?_undefine t name other
    simp only [lookup?, h, if_false] at hu ⊢
    simp [define, List.lookup_cons, beq_false_of_ne h, hu]

/-- A table that holds the given fields, the last entry for a name winning. -/
def ofList (fields : List (String × FieldType)) : FieldTable :=
  fields.foldl (fun t f => t.define f.1 f.2) empty

/-- The table as a schema. -/
def schema (t : FieldTable) : Schema := ⟨t.lookup?⟩

end FieldTable

end FilterQuery
