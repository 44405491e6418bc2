import DocBridge.Proofs.RequestLines
import DocBridge.Proofs.ResponseRecords

/-!
# Texts of objects

A record takes from an object the members of its own fields.  Where the text of the object is also
read as any value, and no name stands twice in it, the record takes what was found there: it is
enough to look at the members that were found, if their values fit the fields.
-/

namespace DocBridge.Json

namespace Schema

/-! ## Values that fit -/

/-- Whether a value that is found where any is wanted is also found where the schema is. -/
def Fits (schema : Schema) (json : Json) : Prop :=
  ∀ room outline, Schema.any.read room outline = .ok json → schema.read room outline = .ok json

theorem Fits.nullable {schema : Schema} {json : Json} (h : schema.Fits json) :
    (Schema.nullable schema).Fits json :=
  fun room outline hread => read_nullable (h room outline hread)

variable {room : Nat} {closed : Bool} {outlines : List (List TextUnit × Outline)}

def namesOf (outlines : List (List TextUnit × Outline)) : List (Except Fault String) :=
  outlines.map fun outline => readText outline.1

variable {fields : List (String × Presence × Schema)}

def FieldsFit (fields : List (String × Presence × Schema)) (members : Members) : Prop :=
  ∀ field ∈ fields, ∀ value, members.lookup field.1 = some value → field.2.2.Fits value

theorem FieldsFit.cons {members : Members} (hrest : FieldsFit fields members) {name : String}
    {schema : Schema} (h : ∀ value, members.lookup name = some value → schema.Fits value)
    (presence : Presence) : FieldsFit ((name, presence, schema) :: fields) members :=
  List.forall_mem_cons.2 ⟨h, hrest⟩

end Schema

/-! ## Objects without repeated names -/

/-- A text that is a JSON object with these members, in which no name stands twice. -/
structure IsObjectText (bytes : Bytes) (members : Members) : Prop where
  parse_eq : parse bytes = .ok (.object members)
  distinct : ∃ outlines closed, (Outline.ofBytes bytes).value = .object outlines closed ∧
    (Schema.namesOf outlines).Nodup

end DocBridge.Json
