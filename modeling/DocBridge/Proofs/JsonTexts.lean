import DocBridge.Proofs.CompactTexts
import DocBridge.Proofs.NumberParts
import DocBridge.Proofs.Utf8Texts
import DocBridge.Json.Codec
import Mathlib.Data.List.Nodup

/-!
# Values are read back

The compact text of a value is read as that value again, for every type that says how: a type is
lossless if its schema admits the outline of whatever it writes and its values are taken from what
was admitted.  Lists, maps and records of lossless types are lossless, as deep as JSON can nest.
-/

namespace DocBridge.Json

/-! ## Strings -/

theorem TextUnit.bytes?_map_byte (bytes : Bytes) (rest : List TextUnit) :
    bytes? (bytes.map .byte ++ rest) = (bytes ++ ·) <$> bytes? rest := by
  induction bytes with
  | nil => simp
  | cons byte others ih =>
    simp only [List.map_cons, List.cons_append, bytes?, ih]
    cases bytes? rest <;> rfl

/-- The units of a written character stand for its bytes. -/
theorem TextUnit.bytes?_unitsOf (character : Char) (rest : List TextUnit) :
    bytes? (Outline.unitsOf character ++ rest) =
      (String.utf8EncodeChar character ++ ·) <$> bytes? rest := by
  unfold Outline.unitsOf
  split
  iterate 7 rfl
  split
  · rename_i hcontrol
    have hunit : character.toNat < 0xD800 ∨ 0xE000 ≤ character.toNat := by omega
    have hbytes : Utf8.encode [Char.ofNat character.toNat] = String.utf8EncodeChar character := by
      rw [Char.ofNat_toNat, Utf8.encode_cons, Utf8.encode_nil, List.append_nil]
    rw [List.singleton_append, bytes?.eq_def]
    simp only [hunit, if_true, hbytes]
  · exact bytes?_map_byte _ rest

/-- A written text is read as the bytes it was made from. -/
theorem TextUnit.bytes?_textOf (text : List Char) :
    bytes? (text.flatMap Outline.unitsOf) = some (Utf8.encode text) := by
  induction text with
  | nil => rfl
  | cons character rest ih =>
    rw [List.flatMap_cons, bytes?_unitsOf, ih]
    rfl

/-- A written text is read as itself. -/
theorem readText_textOf (text : String) : readText (Outline.textOf text) = .ok text := by
  have hstring : TextUnit.string? (Outline.textOf text) = some text := by
    rw [TextUnit.string?, Outline.textOf, TextUnit.bytes?_textOf]
    exact ofUtf8?_utf8Bytes text
  rw [readText, hstring]

/-! ## Lossless types -/

/-- A type whose values are read back from what is written of them, wherever so many containers may
still be opened. -/
class Lossless (α : Type) [Codec α] where
  /-- How deep the containers of a value are nested at most. -/
  depth : Nat
  read_toJson : ∀ (value : α) (room : Nat), depth ≤ room →
    (Codec.schema α).read room (Outline.ofJson (toJson value)) = .ok (toJson value)
  ofJson?_toJson : ∀ value : α, Codec.ofJson? (toJson value) = some value

attribute [simp] Lossless.ofJson?_toJson

/-- An integer is read as itself where any value is, or one of a range that it is in. -/
theorem read_number (schema : Schema) (room : Nat) (n : WideInt) :
    schema.read room (Outline.ofJson (.number (.integer n))) =
      match schema.core with
      | .any => .ok (.number (.integer n))
      | .integer low high =>
        if low ≤ n.value ∧ n.value ≤ high then .ok (.number (.integer n)) else .error .mismatch
      | _ => .error .mismatch := by
  rw [Outline.ofJson, Schema.read, Schema.readNumber, Number.ofText?_integer]
  rfl

instance : Lossless String where
  depth := 0
  read_toJson text room _ := by
    change Schema.readString .string (Outline.textOf text) = .ok (.string text)
    rw [Schema.readString, readText_textOf]
  ofJson?_toJson _ := rfl

instance : Lossless Bool where
  depth := 0
  read_toJson _ _ _ := rfl
  ofJson?_toJson _ := rfl

instance : Lossless Int32 where
  depth := 0
  read_toJson n room _ := by
    have hlow := n.le_toInt
    have hhigh := n.toInt_lt
    refine (read_number _ room _).trans (if_pos ⟨?_, ?_⟩)
    · exact hlow
    · exact Int.le_of_lt_add_one hhigh
  ofJson?_toJson n := congrArg some (Int32.ofInt_toInt n)

instance : Lossless Int64 where
  depth := 0
  read_toJson n room _ := by
    have hlow := n.le_toInt
    have hhigh := n.toInt_lt
    refine (read_number _ room _).trans (if_pos ⟨?_, ?_⟩)
    · exact hlow
    · exact Int.le_of_lt_add_one hhigh
  ofJson?_toJson n := congrArg some (Int64.ofInt_toInt n)

/-! ## Lists and maps -/

theorem readItems_ofItems {schema : Schema} {room : Nat} {items : List Json}
    (h : ∀ item ∈ items, schema.read room (Outline.ofJson item) = .ok item) :
    schema.readItems room true (Outline.ofItems items) = .ok items := by
  induction items with
  | nil => rfl
  | cons item rest ih =>
    have hitem := h item List.mem_cons_self
    have hrest := ih fun other hother => h other (List.mem_cons_of_mem item hother)
    rw [Outline.ofItems, Schema.readItems, hitem]
    simp only [hrest]

theorem readMap_ofMembers {schema : Schema} {room : Nat} {members : Members}
    (h : ∀ member ∈ members, schema.read room (Outline.ofJson member.2) = .ok member.2)
    (found : Members) :
    schema.readMap room true found (Outline.ofMembers members) =
      .ok (members.reverse ++ found) := by
  induction members generalizing found with
  | nil => rfl
  | cons member rest ih =>
    obtain ⟨name, value⟩ := member
    have hvalue := h (name, value) List.mem_cons_self
    have hrest := ih (fun other hother => h other (List.mem_cons_of_mem _ hother))
      ((name, value) :: found)
    rw [Outline.ofMembers, Schema.readMap, readText_textOf]
    simp only [hvalue, hrest, List.reverse_cons, List.append_assoc, List.singleton_append]

instance {α : Type} [Codec α] [Lossless α] : Lossless (List α) where
  depth := Lossless.depth α + 1
  read_toJson values room hroom := by
    obtain ⟨inner, rfl⟩ : ∃ inner, room = inner + 1 := ⟨room - 1, by omega⟩
    have hitems : ∀ item ∈ values.map toJson,
        (Codec.schema α).read inner (Outline.ofJson item) = .ok item := by
      intro item hitem
      obtain ⟨value, -, rfl⟩ := List.mem_map.1 hitem
      exact Lossless.read_toJson value inner (Nat.le_of_succ_le_succ hroom)
    change ((Codec.schema α).readItems inner true (Outline.ofItems (values.map toJson))).map _ = _
    rw [readItems_ofItems hitems]
    rfl
  ofJson?_toJson values := by
    change (values.map toJson).mapM Codec.ofJson? = some values
    rw [List.mapM_map]
    induction values with
    | nil => rfl
    | cons value rest ih =>
      simp only [List.mapM_cons, Lossless.ofJson?_toJson, ih, Function.comp_apply]
      rfl

instance {α : Type} [Codec α] [Lossless α] : Lossless (SortedMap α) where
  depth := Lossless.depth α + 1
  read_toJson map room hroom := by
    obtain ⟨inner, rfl⟩ : ∃ inner, room = inner + 1 := ⟨room - 1, by omega⟩
    let members : Members := map.entries.map fun entry => (entry.1, toJson entry.2)
    have hmembers : ∀ member ∈ members,
        (Codec.schema α).read inner (Outline.ofJson member.2) = .ok member.2 := by
      intro member hmember
      obtain ⟨entry, -, rfl⟩ := List.mem_map.1 hmember
      exact Lossless.read_toJson entry.2 inner (Nat.le_of_succ_le_succ hroom)
    have hdecreasing : members.reverse.Pairwise fun first second => second.1 < first.1 :=
      List.pairwise_reverse.2 (List.pairwise_map.2 map.sorted)
    change ((Codec.schema α).readMap inner true [] (Outline.ofMembers members)).map _ =
      .ok (Json.object members)
    rw [readMap_ofMembers hmembers, List.append_nil]
    change Except.ok (Json.record members.reverse) = _
    rw [Json.record, SortedMap.entries_ofList_of_decreasing hdecreasing, List.reverse_reverse]
  ofJson?_toJson map := by
    have hentries : (map.entries.map fun entry => (entry.1, toJson entry.2)).mapM
        (fun member => (Codec.ofJson? member.2).map (member.1, ·)) = some map.entries := by
      rw [List.mapM_map]
      induction map.entries with
      | nil => rfl
      | cons entry rest ih =>
        simp only [List.mapM_cons, Function.comp_apply, Lossless.ofJson?_toJson, ih]
        rfl
    change ((map.entries.map fun entry => (entry.1, toJson entry.2)).mapM
      fun member => (Codec.ofJson? member.2).map (member.1, ·)).map SortedMap.ofList = some map
    rw [hentries]
    exact congrArg some map.ofList_entries

/-! ## Records -/

/-- The members of a record whose fields are written in their order, some of them not at all.  The
depth is that of the values. -/
inductive Written (depth : Nat) : List (String × Presence × Schema) → Members → Prop
  | nil : Written depth [] []
  | present {name : String} {presence : Presence} {schema : Schema} {value : Json}
      {fields : List (String × Presence × Schema)} {members : Members}
      (hvalue : ∀ room, depth ≤ room → schema.read room (Outline.ofJson value) = .ok value)
      (hrest : Written depth fields members) :
      Written depth ((name, presence, schema) :: fields) ((name, value) :: members)
  | absent {name : String} {presence : Presence} {schema : Schema}
      {fields : List (String × Presence × Schema)} {members : Members}
      (hpresence : presence ≠ .required) (hrest : Written depth fields members) :
      Written depth ((name, presence, schema) :: fields) members

namespace Written

variable {depth : Nat} {fields others : List (String × Presence × Schema)} {members rest : Members}

theorem append (h : Written depth fields members) (h' : Written depth others rest) :
    Written depth (fields ++ others) (members ++ rest) := by
  induction h with
  | nil => exact h'
  | present hvalue _ ih => exact .present hvalue ih
  | absent hpresence _ ih => exact .absent hpresence ih

/-- One more field that is always written. -/
theorem always {α : Type} [Codec α] [Lossless α] (h : Written depth fields members)
    {name : String} {presence : Presence} {value : α}
    (hdepth : Lossless.depth α ≤ depth := by decide) :
    Written depth (fields ++ [(name, presence, Codec.schema α)])
      (members ++ Json.always name value) :=
  h.append (.present (fun room hroom => Lossless.read_toJson value room
    (Nat.le_trans hdepth hroom)) .nil)

/-- One more field that may be left out. -/
theorem omittedIf {α : Type} [Codec α] [Lossless α] (h : Written depth fields members)
    {name : String} {omitted : Bool} {value : α}
    (hdepth : Lossless.depth α ≤ depth := by decide) :
    Written depth (fields ++ [Json.optional name α])
      (members ++ Json.omittedIf omitted name value) := by
  apply h.append
  cases omitted with
  | true => exact .absent nofun .nil
  | false =>
    refine .present (fun room hroom => ?_) .nil
    exact Lossless.read_toJson value room (Nat.le_trans hdepth hroom)

theorem sublist (h : Written depth fields members) :
    (members.map Prod.fst).Sublist (fields.map Prod.fst) := by
  induction h with
  | nil => exact List.Sublist.refl []
  | present _ _ ih => exact ih.cons_cons _
  | absent _ _ ih => exact ih.cons _

/-- Every member that is written has the name of a field whose schema reads it back. -/
theorem exists_field (h : Written depth fields members) {member : String × Json}
    (hmember : member ∈ members) :
    ∃ presence schema, (member.1, presence, schema) ∈ fields ∧
      ∀ room, depth ≤ room → schema.read room (Outline.ofJson member.2) = .ok member.2 := by
  induction h with
  | nil => cases hmember
  | present hvalue _ ih =>
    rcases List.mem_cons.1 hmember with rfl | hmember
    · exact ⟨_, _, List.mem_cons_self, hvalue⟩
    · obtain ⟨presence, schema, hfield, hread⟩ := ih hmember
      exact ⟨presence, schema, List.mem_cons_of_mem _ hfield, hread⟩
  | absent _ _ ih =>
    obtain ⟨presence, schema, hfield, hread⟩ := ih hmember
    exact ⟨presence, schema, List.mem_cons_of_mem _ hfield, hread⟩

/-- The fields that have a member are the members, and every field that has to be there has one. -/
theorem collected (h : Written depth fields members) (hnames : (fields.map Prod.fst).Nodup) :
    (fields.filterMap fun field => (members.lookup field.1).map (field.1, ·)) = members ∧
      ∀ field ∈ fields, field.2.1 = .required → (members.lookup field.1).isSome := by
  induction h with
  | nil => exact ⟨rfl, nofun⟩
  | @present name presence schema value fields members hvalue hrest ih =>
    obtain ⟨hname, hnames⟩ := List.nodup_cons.1 hnames
    obtain ⟨hfields, hrequired⟩ := ih hnames
    have hother : ∀ field ∈ fields, ((name, value) :: members).lookup field.1 =
        members.lookup field.1 := by
      intro field hfield
      have hmem : field.1 ∈ fields.map Prod.fst := List.mem_map_of_mem hfield
      have hne : field.1 ≠ name := fun heq => hname (heq ▸ hmem)
      exact SortedMap.lookup_cons_of_ne hne value members
    constructor
    · rw [List.filterMap_cons_some (b := (name, value)) (by simp)]
      rw [List.filterMap_congr fun field hfield => by rw [hother field hfield], hfields]
    · intro field hfield hpresence
      rcases List.mem_cons.1 hfield with rfl | hfield
      · simp
      · rw [hother field hfield]
        exact hrequired field hfield hpresence
  | @absent name presence schema fields members hpresence hrest ih =>
    obtain ⟨hname, hnames⟩ := List.nodup_cons.1 hnames
    obtain ⟨hfields, hrequired⟩ := ih hnames
    have hnone : members.lookup name = none :=
      SortedMap.lookup_eq_none_iff_not_mem.2 fun hmem => hname (hrest.sublist.subset hmem)
    constructor
    · rw [List.filterMap_cons_none (by simp [hnone]), hfields]
    · intro field hfield hrequired'
      rcases List.mem_cons.1 hfield with rfl | hfield
      · exact absurd hrequired' hpresence
      · exact hrequired field hfield hrequired'

end Written

/-- Members of different names that are all known are read one by one. -/
theorem readMembers_ofMembers {room : Nat} {fields : List (String × Presence × Schema)}
    {members found : Members}
    (hknown : ∀ member ∈ members, ∃ presence schema,
      fields.lookup member.1 = some (presence, schema) ∧
        schema.read room (Outline.ofJson member.2) = .ok member.2)
    (hnames : ((members ++ found).map Prod.fst).Nodup) :
    Schema.readMembers fields room true found (Outline.ofMembers members) =
      .ok (members.reverse ++ found) := by
  induction members generalizing found with
  | nil => rfl
  | cons member rest ih =>
    obtain ⟨name, value⟩ := member
    obtain ⟨presence, schema, hfield, hread⟩ := hknown (name, value) List.mem_cons_self
    have hnew : found.lookup name = none := by
      rw [SortedMap.lookup_eq_none_iff_not_mem]
      rw [List.map_append, List.nodup_append] at hnames
      exact fun hmem => hnames.2.2 name List.mem_cons_self name hmem rfl
    have hnames' : ((rest ++ (name, value) :: found).map Prod.fst).Nodup := by
      refine List.Perm.nodup ?_ hnames
      exact (List.perm_middle.map Prod.fst).symm
    rw [Outline.ofMembers, Schema.readMembers, readText_textOf]
    simp only [hfield, hnew, Option.isSome_none, Bool.false_eq_true, if_false, hread]
    rw [ih (fun other hother => hknown other (List.mem_cons_of_mem _ hother)) hnames']
    simp

/-- A record is read back member by member. -/
theorem Written.read {depth : Nat} {fields : List (String × Presence × Schema)} {members : Members}
    (h : Written depth fields members) (hnames : (fields.map Prod.fst).Nodup) {room : Nat}
    (hroom : depth + 1 ≤ room) :
    (Schema.record fields).read room (Outline.ofJson (.object members)) =
      .ok (.object members) := by
  obtain ⟨inner, rfl⟩ : ∃ inner, room = inner + 1 := ⟨room - 1, by omega⟩
  have hmembers : (members.map Prod.fst).Nodup := hnames.sublist h.sublist
  have hknown : ∀ member ∈ members, ∃ presence schema,
      fields.lookup member.1 = some (presence, schema) ∧
        schema.read inner (Outline.ofJson member.2) = .ok member.2 := by
    intro member hmember
    obtain ⟨presence, schema, hfield, hread⟩ := h.exists_field hmember
    exact ⟨presence, schema, (SortedMap.lookup_eq_some_iff_mem hnames).2 hfield,
      hread inner (Nat.le_of_succ_le_succ hroom)⟩
  have hread : Schema.readMembers fields inner true [] (Outline.ofMembers members) =
      .ok (members.reverse ++ []) :=
    readMembers_ofMembers hknown (by rwa [List.append_nil])
  have hlookup : ∀ name, members.reverse.lookup name = members.lookup name := by
    intro name
    apply Option.ext
    intro value
    have hreverse : (members.reverse.map Prod.fst).Nodup := by
      rwa [List.map_reverse, List.nodup_reverse]
    rw [SortedMap.lookup_eq_some_iff_mem hreverse, SortedMap.lookup_eq_some_iff_mem hmembers,
      List.mem_reverse]
  obtain ⟨hcollected, hrequired⟩ := h.collected hnames
  change ((Schema.readMembers fields inner true [] (Outline.ofMembers members)).bind
    (Schema.collect fields)) = _
  rw [hread, List.append_nil]
  change Schema.collect fields members.reverse = _
  have hall : (fields.all fun field =>
      field.2.1 ≠ .required || (members.lookup field.1).isSome) = true := by
    rw [List.all_eq_true]
    intro field hfield
    by_cases hpresence : field.2.1 = .required
    · simp [hpresence, hrequired field hfield hpresence]
    · simp [hpresence]
  simp only [Schema.collect, hlookup, hall, if_true, hcollected]

/-! ## Texts -/

/-- What is read of a value is what is decoded of any text with the outline of the value. -/
theorem decode_of_ofBytes {α : Type} [Codec α] {bytes : Bytes} {json read : Json} {value : α}
    (hbytes : Outline.ofBytes bytes = ⟨Outline.ofJson json, false⟩)
    (hread : (Codec.schema α).read maxDepth (Outline.ofJson json) = .ok read)
    (hvalue : Codec.ofJson? read = some value) : decode α bytes = .ok value := by
  have hparse : (Codec.schema α).parse bytes = .ok read := by
    simp only [Schema.parse, hbytes, hread]
    rfl
  rw [decode, hparse]
  simp only [hvalue]

/-- A value that its schema reads back from the outline is decoded from its compact text. -/
theorem decode_of_read {α : Type} [Codec α] {json read : Json} {value : α}
    (hread : (Codec.schema α).read maxDepth (Outline.ofJson json) = .ok read)
    (hvalue : Codec.ofJson? read = some value) :
    decode α (Utf8.encode json.compact) = .ok value :=
  decode_of_ofBytes (Outline.ofBytes_compact json) hread hvalue

/-- The compact text of a value is decoded to the value. -/
theorem decode_encode {α : Type} [Codec α] [Lossless α] (hdepth : Lossless.depth α ≤ maxDepth)
    (value : α) : decode α (Utf8.encode (encode value)) = .ok value :=
  decode_of_read (Lossless.read_toJson value maxDepth hdepth) (Lossless.ofJson?_toJson value)

end DocBridge.Json
