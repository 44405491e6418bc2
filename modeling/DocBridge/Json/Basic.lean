import DocBridge.Decimal.Binary64
import DocBridge.SortedMap

/-!
# JSON values

An object keeps its members in the order in which they are written.  A number is an integer that
fits 64 bits, signed or unsigned, or else a double.
-/

namespace DocBridge

/-- An integer that fits 64 bits, signed or unsigned. -/
structure WideInt where
  value : Int
  inRange : -0x8000000000000000 ≤ value ∧ value < 0x10000000000000000
deriving DecidableEq

instance : Repr WideInt := ⟨fun n depth => reprPrec n.value depth⟩

/-- The integer, if it fits. -/
def WideInt.ofInt? (n : Int) : Option WideInt :=
  if h : -0x8000000000000000 ≤ n ∧ n < 0x10000000000000000 then some ⟨n, h⟩ else none

inductive Number where
  | integer (value : WideInt)
  | double (value : Binary64)
deriving DecidableEq, Repr

namespace Number

/-- The integer a number is written as; a double is none, whatever its value. -/
def toInt? : Number → Option Int
  | .integer n => some n.value
  | .double _ => none

def toDouble : Number → Binary64
  | .integer n => .ofInt n.value
  | .double x => x

theorem int32_wide (n : Int32) : -0x8000000000000000 ≤ n.toInt ∧ n.toInt < 0x10000000000000000 := by
  have hlow := n.le_toInt
  have hhigh := n.toInt_lt
  omega

theorem int64_wide (n : Int64) : -0x8000000000000000 ≤ n.toInt ∧ n.toInt < 0x10000000000000000 := by
  have hlow := n.le_toInt
  have hhigh := n.toInt_lt
  omega

def ofInt32 (n : Int32) : Number := .integer ⟨n.toInt, int32_wide n⟩

def ofInt64 (n : Int64) : Number := .integer ⟨n.toInt, int64_wide n⟩

end Number

inductive Json where
  | null
  | bool (value : Bool)
  | number (value : Number)
  | string (value : String)
  | array (items : List Json)
  | object (members : List (String × Json))
deriving Repr

namespace Json

/-- What holds of a container as soon as it holds of everything in it holds of every value. -/
@[elab_as_elim]
theorem induct {motive : Json → Prop} (null : motive .null)
    (bool : ∀ value, motive (.bool value)) (number : ∀ value, motive (.number value))
    (string : ∀ text, motive (.string text))
    (array : ∀ items, (∀ item ∈ items, motive item) → motive (.array items))
    (object : ∀ members : List (String × Json),
      (∀ member ∈ members, motive member.2) → motive (.object members)) (json : Json) :
    motive json :=
  @Json.rec motive (fun items => ∀ item ∈ items, motive item)
    (fun members => ∀ member ∈ members, motive member.2) (fun member => motive member.2)
    null bool number string array object
    nofun (fun _ _ hfirst hrest => List.forall_mem_cons.2 ⟨hfirst, hrest⟩)
    nofun (fun _ _ hfirst hrest => List.forall_mem_cons.2 ⟨hfirst, hrest⟩)
    (fun _ _ hvalue => hvalue) json

instance : Inhabited Json := ⟨.null⟩

abbrev Members := List (String × Json)

/-- The object with the given members in key order, the first of equal keys kept. -/
def record (members : Members) : Json :=
  .object (SortedMap.ofList members).entries

def member? (json : Json) (key : String) : Option Json :=
  match json with
  | .object members => members.lookup key
  | _ => none

theorem member?_record (members : Members) (key : String) :
    (record members).member? key = members.lookup key :=
  SortedMap.get?_ofList members key

def string? : Json → Option String
  | .string text => some text
  | _ => none

def bool? : Json → Option Bool
  | .bool value => some value
  | _ => none

def number? : Json → Option Number
  | .number value => some value
  | _ => none

def items? : Json → Option (List Json)
  | .array items => some items
  | _ => none

def members? : Json → Option Members
  | .object members => some members
  | _ => none

mutual

/-- The value with the members of every object in key order, the first of equal keys kept. -/
def sorted : Json → Json
  | .array items => .array (sortedItems items)
  | .object members => record (sortedMembers members)
  | json => json

def sortedItems : List Json → List Json
  | [] => []
  | item :: rest => item.sorted :: sortedItems rest

def sortedMembers : Members → Members
  | [] => []
  | (key, value) :: rest => (key, value.sorted) :: sortedMembers rest

end

theorem sortedItems_eq_map (items : List Json) : sortedItems items = items.map sorted := by
  induction items with
  | nil => rfl
  | cons item rest ih => rw [sortedItems, ih, List.map_cons]

theorem sortedMembers_eq_map (members : Members) :
    sortedMembers members = members.map fun member => (member.1, member.2.sorted) := by
  induction members with
  | nil => rfl
  | cons member rest ih => rw [sortedMembers, ih, List.map_cons]

end Json

end DocBridge
