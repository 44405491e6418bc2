import DocBridge.Json.Printer
import DocBridge.Json.Schema

/-!
# Types with a JSON form

A type has a JSON form when it has a schema, a way to write its values, and a way to take them
from a value that its schema admitted.
-/

namespace DocBridge.Json

/-- The JSON form of a type. -/
class Codec (α : Type) where
  /-- The values that are read. -/
  schema : Schema
  /-- The value that is written. -/
  toJson : α → Json
  /-- The value taken from JSON that fits the schema. -/
  ofJson? : Json → Option α

export Codec (toJson)

/-- The value of a type that a text spells, or the first fault. -/
def decode (α : Type) [Codec α] (bytes : Bytes) : Except Fault α :=
  match (Codec.schema α).parse bytes with
  | .error fault => .error fault
  | .ok json =>
    match Codec.ofJson? json with
    | some value => .ok value
    | none => .error .mismatch

def encode {α : Type} [Codec α] (value : α) : List Char := (toJson value).compact

instance : Codec Json := ⟨.any, id, some⟩

instance : Codec String := ⟨.string, .string, string?⟩

instance : Codec Bool := ⟨.bool, .bool, bool?⟩

instance : Codec Int32 where
  schema := .integer (-0x80000000) 0x7FFFFFFF
  toJson n := .number (.ofInt32 n)
  ofJson? json := (json.number?.bind Number.toInt?).map Int32.ofInt

instance : Codec Int64 where
  schema := .integer (-0x8000000000000000) 0x7FFFFFFFFFFFFFFF
  toJson n := .number (.ofInt64 n)
  ofJson? json := (json.number?.bind Number.toInt?).map Int64.ofInt

instance {α : Type} [Codec α] : Codec (List α) where
  schema := .list (Codec.schema α)
  toJson values := .array (values.map toJson)
  ofJson? json := json.items?.bind (·.mapM Codec.ofJson?)

instance {α : Type} [Codec α] : Codec (SortedMap α) where
  schema := .map (Codec.schema α)
  toJson map := .object (map.entries.map fun entry => (entry.1, toJson entry.2))
  ofJson? json :=
    json.members?.bind fun members =>
      (members.mapM fun member => (Codec.ofJson? member.2).map (member.1, ·)).map SortedMap.ofList

/-- Null stands for the absence of a value. -/
instance {α : Type} [Codec α] : Codec (Option α) where
  schema := .nullable (Codec.schema α)
  toJson
    | some value => toJson value
    | none => .null
  ofJson?
    | .null => some none
    | json => (Codec.ofJson? json).map some

/-- A field that a record has to have. -/
def field {α : Type} [Codec α] (members : Members) (name : String) : Option α :=
  (members.lookup name).bind Codec.ofJson?

/-- A field for which a default stands in. -/
def fieldOr {α : Type} [Codec α] (members : Members) (name : String) (default : α) : Option α :=
  match members.lookup name with
  | none => some default
  | some value => Codec.ofJson? value

/-- The schema of a field that has to be there. -/
def required (name : String) (α : Type) [Codec α] : String × Presence × Schema :=
  (name, .required, Codec.schema α)

/-- The schema of a field for which a default stands in. -/
def optional (name : String) (α : Type) [Codec α] : String × Presence × Schema :=
  (name, .optional, Codec.schema α)

/-- A member that is always written. -/
def always {α : Type} [Codec α] (name : String) (value : α) : Members :=
  [(name, toJson value)]

/-- A member that is left out in the given case. -/
def omittedIf {α : Type} [Codec α] (omitted : Bool) (name : String) (value : α) : Members :=
  if omitted then [] else [(name, toJson value)]

end DocBridge.Json
