import DocBridge.Proofs.DoubleTexts
import DocBridge.Proofs.JsonTexts
import DocBridge.Proofs.Outcomes
import DocBridge.Rpc.Lines

/-!
# Values that were read

What was read of some text can be written and read again wherever as many containers may still be
opened: its strings are strings, its numbers are spelled within the range of doubles, and its
objects hold values that were read.  This holds of the id of every request, so that it cannot spoil
the response that carries it.
-/

namespace DocBridge.Json

open Outline (ofJson ofItems ofMembers textOf)

/-- Whether a value is read as itself where so many containers may be opened. -/
def ReadsBack (room : Nat) (json : Json) : Prop := Schema.any.read room (ofJson json) = .ok json

/-- Whether a value is read again, if not as itself: reading rounds more than writing does. -/
def Rereads (room : Nat) (json : Json) : Prop :=
  ∃ again, Schema.any.read room (ofJson json) = .ok again

/-! ## What containers are read from -/

namespace Schema

variable {schema : Schema} {room : Nat} {closed : Bool}

theorem exists_of_readItems_cons {item : Outline} {rest : List Outline} {values : List Json}
    (h : schema.readItems room closed (item :: rest) = .ok values) :
    ∃ value others, schema.read room item = .ok value ∧
      schema.readItems room closed rest = .ok others ∧ values = value :: others := by
  rw [readItems] at h
  split at h
  · cases h
  · rename_i value hvalue
    split at h
    · cases h
    · rename_i others hothers
      cases h
      exact ⟨value, others, hvalue, hothers, rfl⟩

theorem exists_of_readItems {outlines : List Outline} {values : List Json}
    (h : schema.readItems room closed outlines = .ok values) :
    ∀ value ∈ values, ∃ outline, schema.read room outline = .ok value := by
  induction outlines generalizing values with
  | nil =>
    rw [readItems] at h
    split at h <;> cases h
    exact List.forall_mem_nil _
  | cons outline rest ih =>
    obtain ⟨value, others, hvalue, hothers, rfl⟩ := exists_of_readItems_cons h
    exact List.forall_mem_cons.2 ⟨⟨outline, hvalue⟩, ih hothers⟩

theorem exists_of_readMap_cons {units : List TextUnit} {item : Outline}
    {rest : List (List TextUnit × Outline)} {found members : Members}
    (h : schema.readMap room closed found ((units, item) :: rest) = .ok members) :
    ∃ name value, readText units = .ok name ∧ schema.read room item = .ok value ∧
      schema.readMap room closed ((name, value) :: found) rest = .ok members := by
  rw [readMap] at h
  split at h
  · cases h
  · rename_i name hname
    split at h
    · cases h
    · rename_i value hvalue
      exact ⟨name, value, hname, hvalue, h⟩

theorem exists_of_readMap {outlines : List (List TextUnit × Outline)} {found members : Members}
    (h : schema.readMap room closed found outlines = .ok members) :
    ∀ member ∈ members,
      member ∈ found ∨ ∃ outline, schema.read room outline = .ok member.2 := by
  induction outlines generalizing found with
  | nil =>
    rw [readMap] at h
    split at h <;> cases h
    exact fun member hmember => .inl hmember
  | cons outline rest ih =>
    obtain ⟨name, value, -, hvalue, hrest⟩ := exists_of_readMap_cons h
    intro member hmember
    rcases ih hrest member hmember with hfound | hread
    · rcases List.mem_cons.1 hfound with rfl | hfound
      · exact .inr ⟨outline.2, hvalue⟩
      · exact .inl hfound
    · exact .inr hread

variable {fields : List (String × Presence × Schema)}

/-- A member that was read with the schema of a field of its name. -/
def FieldRead (fields : List (String × Presence × Schema)) (room : Nat)
    (member : String × Json) : Prop :=
  ∃ presence schema outline, (member.1, presence, schema) ∈ fields ∧
    read schema room outline = .ok member.2

/-- A member of a record that was read is unknown and well formed, or is new and has the schema of
its field. -/
theorem exists_of_readMembers_cons {units : List TextUnit} {item : Outline}
    {rest : List (List TextUnit × Outline)} {found members : Members}
    (h : readMembers fields room closed found ((units, item) :: rest) = .ok members) :
    ∃ name, readText units = .ok name ∧
      ((fields.lookup name = none ∧ item.wellFormed = true ∧
          readMembers fields room closed found rest = .ok members) ∨
        ∃ presence schema value, fields.lookup name = some (presence, schema) ∧
          found.lookup name = none ∧ read schema room item = .ok value ∧
          readMembers fields room closed ((name, value) :: found) rest = .ok members) := by
  rw [readMembers] at h
  split at h
  · cases h
  · rename_i name hname
    refine ⟨name, hname, ?_⟩
    split at h
    · rename_i hfield
      split at h
      · rename_i hitem
        exact .inl ⟨hfield, hitem, h⟩
      · cases h
    · rename_i presence schema hfield
      split at h
      · cases h
      · rename_i hnew
        split at h
        · cases h
        · rename_i value hvalue
          rw [Bool.not_eq_true, Option.isSome_eq_false_iff, Option.isNone_iff_eq_none] at hnew
          exact .inr ⟨presence, schema, value, hfield, hnew, hvalue, h⟩

/-- What a record was read from: a member of its name. -/
theorem exists_of_readMembers {outlines : List (List TextUnit × Outline)}
    {found members : Members} (h : readMembers fields room closed found outlines = .ok members) :
    ∀ member ∈ members, member ∈ found ∨ ∃ units outline presence schema,
      (units, outline) ∈ outlines ∧ readText units = .ok member.1 ∧
        (member.1, presence, schema) ∈ fields ∧ read schema room outline = .ok member.2 := by
  induction outlines generalizing found with
  | nil =>
    rw [readMembers] at h
    split at h <;> cases h
    exact fun member hmember => .inl hmember
  | cons outline rest ih =>
    obtain ⟨units, outline⟩ := outline
    have hbehind {found : Members}
        (h : readMembers fields room closed found rest = .ok members) :
        ∀ member ∈ members, member ∈ found ∨ ∃ units' outline' presence schema,
          (units', outline') ∈ (units, outline) :: rest ∧ readText units' = .ok member.1 ∧
            (member.1, presence, schema) ∈ fields ∧ read schema room outline' = .ok member.2 := by
      intro member hmember
      apply (ih h member hmember).imp_right
      rintro ⟨units', outline', presence, schema, hmem, hread⟩
      exact ⟨units', outline', presence, schema, List.mem_cons_of_mem _ hmem, hread⟩
    obtain ⟨name, hname, ⟨-, -, hrest⟩ | ⟨presence, schema, value, hfield, -, hvalue, hrest⟩⟩ :=
      exists_of_readMembers_cons h
    · exact hbehind hrest
    · intro member hmember
      rcases hbehind hrest member hmember with hfound | hread
      · rcases List.mem_cons.1 hfound with rfl | hfound
        · exact .inr ⟨units, outline, presence, schema, List.mem_cons_self, hname,
            SortedMap.mem_of_lookup hfield, hvalue⟩
        · exact .inl hfound
      · exact .inr hread

/-- Every member that is read by fields comes from the schema of its field, or was there before. -/
theorem fieldRead_of_readMembers {outlines : List (List TextUnit × Outline)}
    {found members : Members} (h : readMembers fields room closed found outlines = .ok members) :
    ∀ member ∈ members, member ∈ found ∨ FieldRead fields room member := by
  intro member hmember
  apply (exists_of_readMembers h member hmember).imp_right
  rintro ⟨units, outline, presence, schema, -, -, hfield, hread⟩
  exact ⟨presence, schema, outline, hfield, hread⟩

theorem readFields_cons (name : String) (presence : Presence) (item : Outline)
    (rest : List Outline) :
    readFields ((name, presence, schema) :: fields) room closed (item :: rest) =
      (schema.read room item).bind fun value =>
        (readFields fields room closed rest).map ((name, value) :: ·) := by
  rw [readFields]
  cases schema.read room item with
  | error fault => rfl
  | ok value => cases readFields fields room closed rest <;> rfl

theorem exists_of_readFields_cons {name : String} {presence : Presence} {item : Outline}
    {rest : List Outline} {members : Members}
    (h : readFields ((name, presence, schema) :: fields) room closed (item :: rest) =
      .ok members) :
    ∃ value others, schema.read room item = .ok value ∧
      readFields fields room closed rest = .ok others ∧ members = (name, value) :: others := by
  rw [readFields_cons] at h
  obtain ⟨value, hvalue, hbehind⟩ := bind_eq_ok_iff.1 h
  obtain ⟨others, hothers, rfl⟩ := map_eq_ok_iff.1 hbehind
  exact ⟨value, others, hvalue, hothers, rfl⟩

theorem fieldRead_of_readFields {outlines : List Outline} {members : Members}
    (h : readFields fields room closed outlines = .ok members) :
    ∀ member ∈ members, FieldRead fields room member := by
  induction outlines generalizing fields members with
  | nil =>
    rw [readFields] at h
    split at h
    · cases h
    · split at h <;> cases h
      nofun
  | cons outline rest ih =>
    cases fields with
    | nil =>
      rw [readFields] at h
      cases h
    | cons field others =>
      obtain ⟨name, presence, schema⟩ := field
      obtain ⟨value, behind, hvalue, hbehind, rfl⟩ := exists_of_readFields_cons h
      refine List.forall_mem_cons.2 ⟨⟨presence, schema, outline, List.mem_cons_self, hvalue⟩,
        fun member hmember => ?_⟩
      obtain ⟨presence, schema, outline, hfield, hread⟩ := ih hbehind member hmember
      exact ⟨presence, schema, outline, List.mem_cons_of_mem _ hfield, hread⟩

theorem fieldRead_of_collect {found members : Members}
    (hfound : ∀ member ∈ found, FieldRead fields room member)
    (h : collect fields found = .ok (.object members)) :
    ∀ member ∈ members, FieldRead fields room member := by
  rw [collect] at h
  split at h
  · cases h
    intro member hmember
    obtain ⟨field, -, hlookup⟩ := List.mem_filterMap.1 hmember
    obtain ⟨value, hvalue, rfl⟩ := Option.map_eq_some_iff.1 hlookup
    exact hfound _ (SortedMap.mem_of_lookup hvalue)
  · cases h

/-- A record is read from an array or from an object. -/
theorem container_of_read_record {outline : Outline} {json : Json}
    (h : (Schema.record fields).read room outline = .ok json) :
    (∃ items closed, outline = .array items closed) ∨
      ∃ members closed, outline = .object members closed := by
  cases outline with
  | array items closed => exact .inl ⟨items, closed, rfl⟩
  | object members closed => exact .inr ⟨members, closed, rfl⟩
  | number digits =>
    rw [read] at h
    simp only [core, readNumber] at h
    split at h <;> cases h
  | string units =>
    rw [read] at h
    simp only [core, readString] at h
    split at h <;> cases h
  | _ => cases h

/-- The members of a record that was read, however it was written. -/
theorem fieldRead_of_read_record {outline : Outline} {members : Members}
    (h : (Schema.record fields).read (room + 1) outline = .ok (.object members)) :
    ∀ member ∈ members, FieldRead fields room member := by
  rcases container_of_read_record h with ⟨items, closed, rfl⟩ | ⟨outlines, closed, rfl⟩
  · obtain ⟨found, hread, hfound⟩ := map_eq_ok_iff.1 h
    cases hfound
    exact fieldRead_of_readFields hread
  · obtain ⟨found, hread, hcollect⟩ := bind_eq_ok_iff.1 h
    apply fieldRead_of_collect _ hcollect
    intro member hmember
    exact (fieldRead_of_readMembers hread member hmember).resolve_left List.not_mem_nil

end Schema

/-! ## Reading back -/

theorem readsBack_string (room : Nat) (text : String) : ReadsBack room (.string text) := by
  rw [ReadsBack, ofJson, Schema.read]
  simp only [Schema.core, Schema.readString, readText_textOf]

theorem readsBack_array {room : Nat} {items : List Json} (h : ∀ item ∈ items, ReadsBack room item) :
    ReadsBack (room + 1) (.array items) := by
  rw [ReadsBack, ofJson, Schema.read]
  simp only [Schema.core, Nat.succ_ne_zero, if_false, Nat.add_sub_cancel, readItems_ofItems h]
  rfl

/-- The members of a record stand in their order already. -/
theorem readsBack_record {room : Nat} {members : Members}
    (h : ∀ member ∈ members, ReadsBack room member.2) :
    ReadsBack (room + 1) (.record members) := by
  have hentries : ∀ member ∈ (SortedMap.ofList members).entries, ReadsBack room member.2 :=
    fun member hmember => h member (SortedMap.mem_of_mem_ofList hmember)
  have hdecreasing : (SortedMap.ofList members).entries.reverse.Pairwise
      fun first second => second.1 < first.1 :=
    List.pairwise_reverse.2 (SortedMap.ofList members).sorted
  rw [ReadsBack, Json.record, ofJson, Schema.read]
  simp only [Schema.core, Nat.succ_ne_zero, if_false, Nat.add_sub_cancel,
    readMap_ofMembers hentries, List.append_nil]
  change Except.ok (Json.record _) = _
  rw [Json.record, SortedMap.entries_ofList_of_decreasing hdecreasing, List.reverse_reverse]

/-! ## Reading again -/

theorem exists_readItems {room : Nat} {items : List Json}
    (h : ∀ item ∈ items, Rereads room item) :
    ∃ again, Schema.any.readItems room true (ofItems items) = .ok again := by
  induction items with
  | nil => exact ⟨[], rfl⟩
  | cons item rest ih =>
    obtain ⟨⟨first, hfirst⟩, hrest⟩ := List.forall_mem_cons.1 h
    obtain ⟨others, hothers⟩ := ih hrest
    rw [ofItems, Schema.readItems, hfirst]
    simp only [hothers]
    exact ⟨first :: others, rfl⟩

theorem exists_readMap {room : Nat} {members : Members}
    (h : ∀ member ∈ members, Rereads room member.2) (found : Members) :
    ∃ again, Schema.any.readMap room true found (ofMembers members) = .ok again := by
  induction members generalizing found with
  | nil => exact ⟨found, rfl⟩
  | cons member rest ih =>
    obtain ⟨name, value⟩ := member
    obtain ⟨⟨first, hfirst⟩, hrest⟩ := List.forall_mem_cons.1 h
    rw [ofMembers, Schema.readMap, readText_textOf]
    simp only [hfirst]
    exact ih hrest _

theorem ReadsBack.rereads {room : Nat} {json : Json} (h : ReadsBack room json) :
    Rereads room json := ⟨json, h⟩

theorem rereads_number (room : Nat) (n : Number) : Rereads room (.number n) := by
  obtain ⟨again, hagain⟩ := Number.exists_ofText? n
  refine ⟨.number again, ?_⟩
  rw [ofJson, Schema.read]
  simp only [Schema.core, Schema.readNumber, hagain]

theorem rereads_array {room : Nat} {items : List Json} (h : ∀ item ∈ items, Rereads room item) :
    Rereads (room + 1) (.array items) := by
  obtain ⟨again, hagain⟩ := exists_readItems h
  refine ⟨.array again, ?_⟩
  rw [ofJson, Schema.read]
  simp only [Schema.core, Nat.succ_ne_zero, if_false, Nat.add_sub_cancel, hagain]
  rfl

/-- An object of values that can be read again can be read again, one level deeper. -/
theorem rereads_object {room : Nat} {members : Members}
    (h : ∀ member ∈ members, Rereads room member.2) : Rereads (room + 1) (.object members) := by
  obtain ⟨again, hagain⟩ := exists_readMap h []
  refine ⟨.record again, ?_⟩
  rw [ofJson, Schema.read]
  simp only [Schema.core, Nat.succ_ne_zero, if_false, Nat.add_sub_cancel, hagain]
  rfl

theorem rereads_record {room : Nat} {members : Members}
    (h : ∀ member ∈ members, Rereads room member.2) : Rereads (room + 1) (.record members) :=
  rereads_object fun _ hmember => h _ (SortedMap.mem_of_mem_ofList hmember)

/-- What was read of a text, where any value is wanted, is what its containers were made of: they
were read with less room, and the members of an object were put in order. -/
theorem induct_of_read {motive : Nat → Json → Prop}
    (null : ∀ room, motive room .null) (bool : ∀ room value, motive room (.bool value))
    (number : ∀ room value, motive room (.number value))
    (string : ∀ room text, motive room (.string text))
    (array : ∀ room items, (∀ item ∈ items, motive room item) → motive (room + 1) (.array items))
    (record : ∀ room (members : Members), (∀ member ∈ members, motive room member.2) →
      motive (room + 1) (.record members))
    {room : Nat} {outline : Outline} {json : Json}
    (h : Schema.any.read room outline = .ok json) : motive room json := by
  induction room using Nat.strongRecOn generalizing outline json with
  | ind room ih =>
    cases outline with
    | broken => cases h
    | null =>
      cases h
      exact null room
    | bool value =>
      cases h
      exact bool room value
    | number digits =>
      rw [Schema.read] at h
      simp only [Schema.core, Schema.readNumber] at h
      split at h
      · cases h
      · cases h
        exact number room _
    | string units =>
      rw [Schema.read] at h
      simp only [Schema.core, Schema.readString] at h
      split at h
      · cases h
      · cases h
        exact string room _
    | array items closed =>
      cases room with
      | zero => cases h
      | succ room =>
        obtain ⟨values, hread, rfl⟩ := map_eq_ok_iff.1 h
        apply array
        intro value hvalue
        obtain ⟨outline, hvalue⟩ := Schema.exists_of_readItems hread value hvalue
        exact ih room (Nat.lt_succ_self room) hvalue
    | object members closed =>
      cases room with
      | zero => cases h
      | succ room =>
        obtain ⟨found, hread, rfl⟩ := map_eq_ok_iff.1 h
        apply record
        intro member hmember
        obtain ⟨outline, hvalue⟩ :=
          (Schema.exists_of_readMap hread member hmember).resolve_left List.not_mem_nil
        exact ih room (Nat.lt_succ_self room) hvalue

/-- Whatever was read is read again once it is written. -/
theorem rereads_of_read {room : Nat} {outline : Outline} {json : Json}
    (h : Schema.any.read room outline = .ok json) : Rereads room json :=
  induct_of_read (fun _ => ⟨.null, rfl⟩) (fun _ value => ⟨.bool value, rfl⟩) rereads_number
    (fun room text => (readsBack_string room text).rereads) (fun _ _ => rereads_array)
    (fun _ _ => rereads_record) h

end DocBridge.Json

namespace DocBridge

open Json

/-! ## The ids of requests -/

/-- A value that is decoded was read from all of its text. -/
theorem exists_of_decode {α : Type} [Codec α] {bytes : Bytes} {value : α}
    (h : decode α bytes = .ok value) :
    (Outline.ofBytes bytes).trailing = false ∧
      ∃ json, (Codec.schema α).read maxDepth (Outline.ofBytes bytes).value = .ok json ∧
        Codec.ofJson? json = some value := by
  rw [decode] at h
  split at h
  · cases h
  · rename_i json hparse
    simp only [Schema.parse] at hparse
    split at hparse
    · cases hparse
    · rename_i read hread
      split at hparse
      · cases hparse
      · rename_i htrailing
        cases hparse
        split at h
        · rename_i hvalue
          cases h
          exact ⟨Bool.eq_false_iff.2 htrailing, json, hread, hvalue⟩
        · cases h

/-- The id of a request is the member of that name. -/
theorem id_mem_of_ofJson? {json : Json} {request : RpcRequest}
    (h : Codec.ofJson? json = some request) {id : Json} (hid : request.id = some id) :
    ∃ members, json = .object members ∧ ("id", id) ∈ members := by
  change (json.members?.bind fun members => _) = some request at h
  obtain ⟨members, hmembers, hrequest⟩ := Option.bind_eq_some_iff.1 h
  simp only [Option.bind_eq_bind, Option.bind_eq_some_iff, Option.pure_def,
    Option.some.injEq] at hrequest
  obtain ⟨version, -, method, -, params, -, rfl⟩ := hrequest
  refine ⟨members, ?_, SortedMap.mem_of_lookup hid⟩
  cases json <;> cases hmembers
  rfl

/-- The request on a line is what its text without blanks is decoded to. -/
theorem requestOfLine?_eq_some_iff {line : Bytes} {request : RpcRequest} :
    requestOfLine? line = some request ↔
      decode RpcRequest (trim isLineBlank line) = .ok request := by
  rw [requestOfLine?]
  cases decode RpcRequest (trim isLineBlank line) <;> simp

/-- The id of a request that was read from a line is read again, wherever it stands in a response
as deep as in its request. -/
theorem rereads_id {line : Bytes} {request : RpcRequest} (h : requestOfLine? line = some request)
    {id : Json} (hid : request.id = some id) : Rereads (maxDepth - 1) id := by
  obtain ⟨-, json, hread, hvalue⟩ := exists_of_decode (requestOfLine?_eq_some_iff.1 h)
  obtain ⟨members, rfl, hmem⟩ := id_mem_of_ofJson? hvalue hid
  obtain ⟨presence, schema, inner, hfield, hinner⟩ :=
    Schema.fieldRead_of_read_record hread ("id", id) hmem
  have hany : schema = .any := by
    simp [Json.optional, required] at hfield
    exact hfield.2
  rw [hany] at hinner
  exact rereads_of_read hinner

end DocBridge
