import FilterQuery.Json.Decode
import FilterQuery.Settings

/-!
# Settings in JSON

Settings are stored as a JSON object with a member for each pattern.  A
missing member means the standard pattern, and other members are ignored.  An
array of the patterns, in their order, is read as well.
-/

namespace FilterQuery.Settings

open Json

/-- The member for the pattern of a date. -/
def dateKey : String := "date_format"

/-- The member for the pattern of a date with a time of day. -/
def dateTimeKey : String := "date_time_format"

/-- A member with a string. -/
def encodeMember (key value : String) : List Char :=
  encodeString key.toList ++ ':' :: encodeString value.toList

/-- The settings as an object without blanks. -/
def encode (s : Settings) : String :=
  String.ofList ('{' :: (encodeMember dateKey s.dateFormat ++
    ',' :: (encodeMember dateTimeKey s.dateTimeFormat ++ ['}'])))

/-- The members read so far. -/
structure Members where
  date? : Option String := none
  dateTime? : Option String := none
  deriving DecidableEq, Repr

/-- The settings of the members, with the standard for those that are
missing. -/
def Members.settings (m : Members) : Settings where
  dateFormat := m.date?.getD standard.dateFormat
  dateTimeFormat := m.dateTime?.getD standard.dateTimeFormat

/-- Reads a pattern. -/
def readPattern (text : List Char) : Except DecodeError (String × List Char) := do
  let (value, rest) ← readStringAs "a string" text
  return (String.ofList value, rest)

/-- Reads the colon and the value of a member.  A member that was read before
is refused at once, and the value of an unknown one may be anything. -/
def readMember (m : Members) (key : String) (text : List Char) :
    Except DecodeError (Members × List Char) :=
  if key = dateKey then
    if m.date?.isSome then .error (.duplicateField dateKey)
    else do
      let (value, rest) ← readPattern (← readColon text)
      return ({ m with date? := some value }, rest)
  else if key = dateTimeKey then
    if m.dateTime?.isSome then .error (.duplicateField dateTimeKey)
    else do
      let (value, rest) ← readPattern (← readColon text)
      return ({ m with dateTime? := some value }, rest)
  else do
    match passValue? (← readColon text) with
    | some rest => return (m, rest)
    | none => .error .malformed

/-- Reads members from the quote of a key up to the closing brace.  Every
round takes at least one character, so `fuel` need not exceed their number. -/
def readMembersFor : Nat → Members → List Char → Except DecodeError (Members × List Char)
  | 0, _, _ => .error .malformed
  | fuel + 1, m, text =>
    match skipSpace text with
    | '"' :: rest =>
      match readString? .plain rest with
      | none => .error .malformed
      | some (key, rest) => do
        let (m, rest) ← readMember m (String.ofList key) rest
        match skipSpace rest with
        | '}' :: rest => return (m, rest)
        | ',' :: rest => readMembersFor fuel m rest
        | _ => .error .malformed
    | _ => .error .malformed

/-- Reads the inside of an object and its closing brace. -/
def readObject (text : List Char) : Except DecodeError (Settings × List Char) :=
  match skipSpace text with
  | '}' :: rest => .ok (standard, rest)
  | rest => do
    let (m, rest) ← readMembersFor (rest.length + 1) {} rest
    return (m.settings, rest)

/-- Reads the end of an array. -/
def readArrayEnd (s : Settings) (text : List Char) : Except DecodeError (Settings × List Char) :=
  match skipSpace text with
  | ']' :: rest => .ok (s, rest)
  | _ => .error .malformed

/-- Reads the inside of an array, of at most two patterns, and its closing
bracket. -/
def readArray (text : List Char) : Except DecodeError (Settings × List Char) :=
  match skipSpace text with
  | ']' :: rest => .ok (standard, rest)
  | rest => do
    let (first, rest) ← readPattern rest
    match skipSpace rest with
    | ',' :: rest =>
      if (skipSpace rest).head? = some ']' then .error .malformed
      else
        let (second, rest) ← readPattern rest
        readArrayEnd ⟨first, second⟩ rest
    | rest => readArrayEnd { standard with dateFormat := first } rest

/-- The settings that a JSON text holds. -/
def decode (text : String) : Except DecodeError Settings := do
  let (s, rest) ←
    match skipSpace text.toList with
    | '{' :: rest => readObject rest
    | '[' :: rest => readArray rest
    | rest => .error (unexpected "struct ProcessorConfig" rest)
  readEnd rest
  return s

end FilterQuery.Settings
