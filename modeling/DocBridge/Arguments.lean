import DocBridge.BridgeError

/-!
# Arguments of tools

Tool arguments are the members of a JSON object.  An optional argument that is absent, or of
another type than the tool expects, has its zero value, and a number is cut to an integer.
-/

namespace DocBridge

abbrev Arguments := Json.Members

namespace Arguments

def get? (arguments : Arguments) (name : String) : Option Json := arguments.lookup name

/-- A string, empty if there is none. -/
def string (arguments : Arguments) (name : String) : String :=
  ((arguments.get? name).bind Json.string?).getD ""

/-- A string that must be there and not be empty. -/
def requiredString (arguments : Arguments) (name : String) : Except BridgeError String :=
  if arguments.string name = "" then .error (.missingArgument name)
  else .ok (arguments.string name)

def clamp (low high n : Int) : Int := max low (min n high)

/-- The integer part of a number, read as a double, within the range of 64 bits. -/
def toInt64 (n : Number) : Int64 :=
  Int64.ofInt (clamp (-0x8000000000000000) 0x7FFFFFFFFFFFFFFF n.toDouble.truncate)

/-- The nearest 32-bit integer. -/
def toInt32 (n : Int64) : Int32 :=
  Int32.ofInt (clamp (-0x80000000) 0x7FFFFFFF n.toInt)

/-- An integer, zero if there is no number. -/
def int64 (arguments : Arguments) (name : String) : Int64 :=
  match (arguments.get? name).bind Json.number? with
  | some n => toInt64 n
  | none => 0

/-- An integer within the range of 32 bits, zero if there is no number. -/
def int32 (arguments : Arguments) (name : String) : Int32 :=
  toInt32 (arguments.int64 name)

def bool (arguments : Arguments) (name : String) : Bool :=
  ((arguments.get? name).bind Json.bool?).getD false

/-- The values of one metadata member: a single string, or the strings of a list. -/
def metaValues? : Json → Option (List String)
  | .string value => some [value]
  | .array items => some (items.filterMap Json.string?)
  | _ => none

def metaOfMembers (members : Json.Members) : Meta :=
  .ofList (members.filterMap fun member => (metaValues? member.2).map (member.1, ·))

def metadata (arguments : Arguments) (name : String) : Meta :=
  match (arguments.get? name).bind Json.members? with
  | some members => metaOfMembers members
  | none => ∅

/-- The arguments of every entry of a batch whose first entry has the given index. -/
def entriesFrom (name : String) (index : Nat) : List Json → Except BridgeError (List Arguments)
  | [] => .ok []
  | item :: rest =>
    match item.members? with
    | none =>
      .error (.invalidArgument name
        ("invalid document at index " ++ toString index ++ ": not an object"))
    | some entry =>
      match entriesFrom name (index + 1) rest with
      | .error failure => .error failure
      | .ok entries => .ok (entry :: entries)

def entries (arguments : Arguments) (name : String) : Except BridgeError (List Arguments) :=
  match (arguments.get? name).bind Json.items? with
  | none => .error (.invalidArgument name "must be an array")
  | some items => entriesFrom name 0 items

def batchEntry (entry : Arguments) : BatchEntry where
  key := entry.string "key"
  lang := entry.string "lang"
  metadata := entry.metadata "meta"
  contentMd := entry.string "content_md"
  saveRevision := entry.bool "save_revision"

def documentRef (entry : Arguments) : DocumentRef where
  key := entry.string "key"
  lang := entry.string "lang"

def batchEntries (arguments : Arguments) (name : String) : Except BridgeError (List BatchEntry) :=
  (arguments.entries name).map (·.map batchEntry)

def documentRefs (arguments : Arguments) (name : String) :
    Except BridgeError (List DocumentRef) :=
  (arguments.entries name).map (·.map documentRef)

end Arguments

end DocBridge
