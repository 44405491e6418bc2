import DocBridge.Json.NumberText
import DocBridge.Json.Outline

/-!
# Reading JSON against a schema

The second phase of reading.  A schema says which values are wanted; `Schema.read` goes through an
outline in the order of the text and either gives the value that was wanted or the first fault.  A
fault is `malformed` where the text is not JSON, or holds a number or a string that no value can
hold, and `mismatch` where it is JSON of another shape.

A record keeps the members it knows, in the order of its schema, and asks of the others only that
they are well formed.  It may also be written as the array of its members.
-/

namespace DocBridge.Json

/-- Why a text gives no value. -/
inductive Fault where
  | malformed
  | mismatch
deriving DecidableEq, Repr

/-- When a record may lack a field: never, only if it is written as an object, or always. -/
inductive Presence where
  | required
  | optionalByName
  | optional
deriving DecidableEq, Repr

/-- The values that are wanted. -/
inductive Schema where
  | any
  | bool
  | string
  | integer (low high : Int)
  | list (item : Schema)
  | map (value : Schema)
  | choice (names : List String)
  | record (fields : List (String × Presence × Schema))
  | nullable (inner : Schema)
deriving Repr

namespace TextUnit

/-- The bytes of a text, with two units of a surrogate pair taken together; none if a surrogate
stands alone. -/
def bytes? : List TextUnit → Option Bytes
  | [] => some []
  | .byte value :: rest => (value :: ·) <$> bytes? rest
  | .utf16 unit :: rest =>
    if unit < 0xD800 ∨ 0xE000 ≤ unit then
      (Utf8.encode [Char.ofNat unit] ++ ·) <$> bytes? rest
    else if 0xDC00 ≤ unit then none
    else match rest with
      | .utf16 low :: rest =>
        if 0xDC00 ≤ low ∧ low < 0xE000 then
          (Utf8.encode [Char.ofNat (0x10000 + (unit - 0xD800) * 0x400 + (low - 0xDC00))] ++ ·) <$>
            bytes? rest
        else none
      | _ => none

def string? (units : List TextUnit) : Option String :=
  (bytes? units).bind ofUtf8?

end TextUnit

/-- The nesting depth up to which a value can be kept. -/
def maxDepth : Nat := 127

/-- The text of a string or of a member's name. -/
def readText (units : List TextUnit) : Except Fault String :=
  match TextUnit.string? units with
  | some text => .ok text
  | none => .error .malformed

namespace Schema

/-- The schema below all `nullable`. -/
def core : Schema → Schema
  | .nullable inner => inner.core
  | schema => schema

/-- Whether null is wanted beside the values of the core. -/
def acceptsNull : Schema → Bool
  | .nullable _ | .any => true
  | _ => false

/-- A number read against a schema's core. -/
def readNumber (schema : Schema) (digits : Bytes) : Except Fault Json :=
  match Number.ofText? digits with
  | none => .error .malformed
  | some value =>
    match schema with
    | .any => .ok (.number value)
    | .integer low high =>
      match value.toInt? with
      | some n => if low ≤ n ∧ n ≤ high then .ok (.number value) else .error .mismatch
      | none => .error .mismatch
    | _ => .error .mismatch

/-- A string read against a schema's core. -/
def readString (schema : Schema) (units : List TextUnit) : Except Fault Json :=
  match readText units with
  | .error fault => .error fault
  | .ok text =>
    match schema with
    | .any | .string => .ok (.string text)
    | .choice names => if names.contains text then .ok (.string text) else .error .mismatch
    | _ => .error .mismatch

/-- The members of a record in the order of its fields, or `mismatch` if a field is lacking that
must not be. -/
def collect (fields : List (String × Presence × Schema)) (found : Members) :
    Except Fault Json :=
  if fields.all fun field => field.2.1 ≠ .required || (found.lookup field.1).isSome then
    .ok (.object (fields.filterMap fun field => (found.lookup field.1).map (field.1, ·)))
  else .error .mismatch

mutual

/-- Reads an outline for which `depth` further containers may be opened. -/
def read (schema : Schema) (depth : Nat) : Outline → Except Fault Json
  | .null => if schema.acceptsNull then .ok .null else .error .mismatch
  | .bool value =>
    match schema.core with
    | .any | .bool => .ok (.bool value)
    | _ => .error .mismatch
  | .number digits => schema.core.readNumber digits
  | .string units => schema.core.readString units
  | .broken => .error .malformed
  | .array items closed =>
    match schema.core with
    | .any =>
      if depth = 0 then .error .malformed
      else (readItems .any (depth - 1) closed items).map .array
    | .list item =>
      if depth = 0 then .error .malformed
      else (readItems item (depth - 1) closed items).map .array
    | .record fields =>
      if depth = 0 then .error .malformed
      else (readFields fields (depth - 1) closed items).map .object
    | _ => .error .mismatch
  | .object members closed =>
    match schema.core with
    | .any =>
      if depth = 0 then .error .malformed
      else (readMap .any (depth - 1) closed [] members).map fun found => .record found
    | .map value =>
      if depth = 0 then .error .malformed
      else (readMap value (depth - 1) closed [] members).map fun found => .record found
    | .record fields =>
      if depth = 0 then .error .malformed
      else (readMembers fields (depth - 1) closed [] members).bind (collect fields)
    | .choice names =>
      if depth = 0 then .error .malformed
      else readChoice names closed members
    | _ => .error .mismatch

def readItems (schema : Schema) (depth : Nat) (closed : Bool) :
    List Outline → Except Fault (List Json)
  | [] => if closed then .ok [] else .error .malformed
  | item :: rest =>
    match read schema depth item with
    | .error fault => .error fault
    | .ok value =>
      match readItems schema depth closed rest with
      | .error fault => .error fault
      | .ok values => .ok (value :: values)

/-- A record written as an array.  Items beyond the last field are not JSON for it. -/
def readFields (fields : List (String × Presence × Schema)) (depth : Nat) (closed : Bool) :
    List Outline → Except Fault Members
  | [] =>
    if !closed then .error .malformed
    else if fields.all fun field => field.2.1 = .optional then .ok []
    else .error .mismatch
  | item :: rest =>
    match fields with
    | [] => .error .malformed
    | (name, _, schema) :: fields =>
      match read schema depth item with
      | .error fault => .error fault
      | .ok value =>
        match readFields fields depth closed rest with
        | .error fault => .error fault
        | .ok members => .ok ((name, value) :: members)

/-- The members of a map, the newest first. -/
def readMap (schema : Schema) (depth : Nat) (closed : Bool) (found : Members) :
    List (List TextUnit × Outline) → Except Fault Members
  | [] => if closed then .ok found else .error .malformed
  | (units, item) :: rest =>
    match readText units with
    | .error fault => .error fault
    | .ok name =>
      match read schema depth item with
      | .error fault => .error fault
      | .ok value => readMap schema depth closed ((name, value) :: found) rest

/-- The known members of a record.  A second member of one name is a mismatch. -/
def readMembers (fields : List (String × Presence × Schema)) (depth : Nat) (closed : Bool)
    (found : Members) : List (List TextUnit × Outline) → Except Fault Members
  | [] => if closed then .ok found else .error .malformed
  | (units, item) :: rest =>
    match readText units with
    | .error fault => .error fault
    | .ok name =>
      match fields.lookup name with
      | none =>
        if item.wellFormed then readMembers fields depth closed found rest
        else .error .malformed
      | some (_, schema) =>
        if (found.lookup name).isSome then .error .mismatch
        else
          match read schema depth item with
          | .error fault => .error fault
          | .ok value => readMembers fields depth closed ((name, value) :: found) rest

/-- A choice written as an object with the chosen name and null. -/
def readChoice (names : List String) (closed : Bool) :
    List (List TextUnit × Outline) → Except Fault Json
  | [(units, .null)] =>
    match readText units with
    | .error fault => .error fault
    | .ok name =>
      if !closed then .error .malformed
      else if names.contains name then .ok (.string name)
      else .error .mismatch
  | _ => .error .malformed

end

/-- The value that a text spells, or its first fault. -/
def parse (schema : Schema) (bytes : Bytes) : Except Fault Json :=
  let document := Outline.ofBytes bytes
  match schema.read maxDepth document.value with
  | .error fault => .error fault
  | .ok value => if document.trailing then .error .malformed else .ok value

end Schema

def parse (bytes : Bytes) : Except Fault Json := Schema.any.parse bytes

end DocBridge.Json
