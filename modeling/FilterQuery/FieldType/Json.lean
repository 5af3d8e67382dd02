import FilterQuery.FieldType
import FilterQuery.Json.Decode

/-!
# Field types in JSON

A field type is stored as its name.  An object with the name as its only key
and null as its value is read as well.
-/

namespace FilterQuery.FieldType

open Json

/-- The name as a JSON string. -/
def encode (t : FieldType) : String := String.ofList (encodeString t.name.toList)

/-- Reads a name. -/
def readName (text : List Char) : Except DecodeError (FieldType × List Char) := do
  let (name, rest) ← readStringAs "variant identifier" text
  match ofName? (String.ofList name) with
  | some t => return (t, rest)
  | none => .error (.unknownVariant (String.ofList name) (all.map FieldType.name))

/-- Reads a null. -/
def readNull (text : List Char) : Except DecodeError (List Char) :=
  match skipSpace text with
  | 'n' :: rest =>
    match Text.dropWord? ['u', 'l', 'l'] rest with
    | some rest => .ok rest
    | none => .error .malformed
  | rest => .error (unexpected "unit" rest)

/-- The field type that a JSON text holds. -/
def decode (text : String) : Except DecodeError FieldType := do
  let (t, rest) ←
    match skipSpace text.toList with
    | '"' :: rest => readName ('"' :: rest)
    | '{' :: rest => do
      let (t, rest) ← readName rest
      let rest ← readNull (← readColon rest)
      match skipSpace rest with
      | '}' :: rest => pure (t, rest)
      | _ => .error .malformed
    | _ => .error .malformed
  readEnd rest
  return t

end FilterQuery.FieldType
