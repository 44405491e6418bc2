import DocBridge.Proofs.BatchDocuments
import DocBridge.Proofs.HeededArguments
import DocBridge.Proofs.ToolArguments
import Mathlib.Logic.Relation

/-!
# The normal form of metadata

Metadata are given as an object that has a text or a list under each key.  A single text may as well
be the only item of a list, what is no text may be taken out of a list, and what is neither text nor
list may be taken out of the object: whatever such changes are made, the same is read.  What is
read, written as JSON, is therefore the normal form of what was given, and each tool takes arguments
in normal form for what they were before.  The changes are also all that reading forgets: two
objects with their members in key order are read alike only if the changes lead from one to the
other.
-/

namespace DocBridge

open Json (toJson)

/-! ## Changes that do not show -/

/-- What does not show in one change does not show in any number of changes, made or unmade. -/
theorem eq_of_eqvGen {α β : Type} {change : α → α → Prop} (view : α → β)
    (hchange : ∀ {before after : α}, change before after → view before = view after)
    {before after : α} (h : Relation.EqvGen change before after) : view before = view after :=
  (eq_equivalence.comap view).eqvGen_iff.1 (h.mono fun _ _ => hchange)

namespace Metadata

/-- A change in the members of a metadata object that does not show: a text is put into a list,
something else than a text is taken out of a list, or a member that is neither is taken out. -/
inductive Tidies : Json.Members → Json.Members → Prop where
  | listText (earlier later : Json.Members) (key text : String) :
    Tidies (earlier ++ (key, .string text) :: later)
      (earlier ++ (key, .array [.string text]) :: later)
  | dropItem (earlier later : Json.Members) (key : String) (front back : List Json) {item : Json}
      (h : ∀ text, item ≠ .string text) :
    Tidies (earlier ++ (key, .array (front ++ item :: back)) :: later)
      (earlier ++ (key, .array (front ++ back)) :: later)
  | dropMember (earlier later : Json.Members) (key : String) {value : Json}
      (htext : ∀ text, value ≠ .string text) (hlist : ∀ items, value ≠ .array items) :
    Tidies (earlier ++ (key, value) :: later) (earlier ++ later)

/-- What is read of the members of a metadata object, one by one. -/
def readings (members : Json.Members) : List (String × List String) :=
  members.filterMap fun member => (Arguments.metaValues? member.2).map (member.1, ·)

theorem metaOfMembers_eq (members : Json.Members) :
    Arguments.metaOfMembers members = .ofList (readings members) := rfl

theorem readings_append (first second : Json.Members) :
    readings (first ++ second) = readings first ++ readings second :=
  List.filterMap_append

theorem readings_text (key text : String) (rest : Json.Members) :
    readings ((key, .string text) :: rest) = (key, [text]) :: readings rest := rfl

theorem readings_list (key : String) (items : List Json) (rest : Json.Members) :
    readings ((key, .array items) :: rest) =
      (key, items.filterMap Json.string?) :: readings rest := rfl

/-- Values of other kinds count as if they were not there. -/
theorem readings_other (key : String) {value : Json} (htext : ∀ text, value ≠ .string text)
    (hlist : ∀ items, value ≠ .array items) (rest : Json.Members) :
    readings ((key, value) :: rest) = readings rest := by
  cases value with
  | string text => exact absurd rfl (htext text)
  | array items => exact absurd rfl (hlist items)
  | _ => rfl

theorem mem_readings {members : Json.Members} {key : String} {values : List String} :
    (key, values) ∈ readings members ↔
      ∃ json, (key, json) ∈ members ∧ Arguments.metaValues? json = some values := by
  simp [readings, List.mem_filterMap]

/-- Nothing is read under another key, and nothing in another order. -/
theorem pairwise_readings {R : String → String → Prop} {members : Json.Members}
    (h : members.Pairwise fun first second => R first.1 second.1) :
    (readings members).Pairwise fun first second => R first.1 second.1 := by
  apply h.filterMap
  intro first second hkeys entry hentry other hother
  obtain ⟨values, -, rfl⟩ := Option.map_eq_some_iff.1 hentry
  obtain ⟨others, -, rfl⟩ := Option.map_eq_some_iff.1 hother
  exact hkeys

/-- Where every key stands once, it is read from its value. -/
theorem lookup_readings {members : Json.Members} (h : (members.map Prod.fst).Nodup)
    (key : String) :
    (readings members).lookup key = (members.lookup key).bind Arguments.metaValues? := by
  have hkeys : ((readings members).map Prod.fst).Nodup :=
    List.pairwise_map.2 (pairwise_readings (List.pairwise_map.1 h))
  ext values
  rw [SortedMap.lookup_eq_some_iff_mem hkeys, mem_readings, Option.bind_eq_some_iff]
  simp only [SortedMap.lookup_eq_some_iff_mem h]

theorem string?_eq_none {item : Json} (h : ∀ text, item ≠ .string text) : item.string? = none := by
  cases item with
  | string text => exact absurd rfl (h text)
  | _ => rfl

/-- A change does not show in what is read. -/
theorem Tidies.readings_eq {first second : Json.Members} (h : Tidies first second) :
    readings first = readings second := by
  cases h with
  | listText earlier later key text =>
    rw [readings_append, readings_append, readings_text, readings_list]
    rfl
  | dropItem earlier later key front back hitem =>
    rw [readings_append, readings_append, readings_list, readings_list, List.filterMap_append,
      List.filterMap_append, List.filterMap_cons_none (string?_eq_none hitem)]
  | dropMember earlier later key htext hlist =>
    rw [readings_append, readings_append, readings_other key htext hlist]

/-- What has been read, as the members of a metadata object. -/
def written (values : List (String × List String)) : Json.Members :=
  values.map fun entry => (entry.1, toJson entry.2)

/-- What is written for some values is read as these values. -/
theorem readings_written (values : List (String × List String)) :
    readings (written values) = values := by
  induction values with
  | nil => rfl
  | cons entry rest ih =>
    have hentry : Arguments.metaValues? (toJson entry.2) = some entry.2 :=
      Arguments.metaValues?_toJson entry.2
    rw [written, List.map_cons, readings, List.filterMap_cons_some (by rw [hentry]; rfl)]
    exact congrArg (entry :: ·) ih

/-- Metadata are read back from their JSON form. -/
theorem metaOfMembers_written (metadata : Meta) :
    Arguments.metaOfMembers (written metadata.entries) = metadata := by
  rw [metaOfMembers_eq, readings_written, SortedMap.ofList_entries]

/-! ## Keys -/

/-- A key of a metadata object stands there with these values: with a text alone, or with a list
that has these texts in this order. -/
def HasValues (members : Json.Members) (key : String) (values : List String) : Prop :=
  (∃ text, members.lookup key = some (.string text) ∧ values = [text]) ∨
    ∃ items, members.lookup key = some (.array items) ∧ values = items.filterMap Json.string?

/-- A key has the values that the member that counts under it is read as. -/
theorem hasValues_iff {members : Json.Members} {key : String} {values : List String} :
    HasValues members key values ↔
      (members.lookup key).bind Arguments.metaValues? = some values := by
  rw [HasValues]
  cases members.lookup key with
  | none => simp
  | some json => cases json <;> simp [Arguments.metaValues?, eq_comm]

/-- Metadata has the values that its members give, key by key. -/
theorem get?_metaOfMembers_eq_some_iff {members : Json.Members}
    (h : (members.map Prod.fst).Nodup) {key : String} {values : List String} :
    (Arguments.metaOfMembers members).get? key = some values ↔ HasValues members key values := by
  rw [metaOfMembers_eq, SortedMap.get?_ofList, lookup_readings h, hasValues_iff]

/-- The keys of metadata are those that stand in their object with a text or a list. -/
theorem get?_metadata_eq_some_iff {arguments : Arguments} {name : String}
    (h : ∀ members, arguments.get? name = some (.object members) → (members.map Prod.fst).Nodup)
    {key : String} {values : List String} :
    (arguments.metadata name).get? key = some values ↔
      ∃ members, arguments.get? name = some (.object members) ∧ HasValues members key values := by
  have hnothing : (∅ : Meta).get? key ≠ some values := nofun
  rw [Arguments.metadata]
  cases hvalue : arguments.get? name with
  | none => simp [hnothing]
  | some json =>
    cases json with
    | object members =>
      simp only [Json.members?, Option.bind_some, get?_metaOfMembers_eq_some_iff (h members hvalue),
        Option.some.injEq, Json.object.injEq, exists_eq_left']
    | _ => simp [Json.members?, hnothing]

/-! ## The way to the normal form -/

/-- All but the texts can be taken out of a list, one thing after the other. -/
theorem reflTransGen_dropItems (earlier later : Json.Members) (key : String)
    (front items : List Json) :
    Relation.ReflTransGen Tidies (earlier ++ (key, .array (front ++ items)) :: later)
      (earlier ++ (key, .array (front ++ (items.filterMap Json.string?).map .string)) ::
        later) := by
  induction items generalizing front with
  | nil => exact .refl
  | cons item rest ih =>
    cases item with
    | string text =>
      have hrest := ih (front ++ [.string text])
      rwa [List.append_assoc, List.append_assoc] at hrest
    | _ => exact .head (.dropItem earlier later key front rest nofun) (ih front)

/-- The changes lead to what is read, one member after the other. -/
theorem reflTransGen_written (earlier members : Json.Members) :
    Relation.ReflTransGen Tidies (earlier ++ members) (earlier ++ written (readings members)) := by
  induction members generalizing earlier with
  | nil => exact .refl
  | cons member rest ih =>
    obtain ⟨key, value⟩ := member
    cases value with
    | string text =>
      apply Relation.ReflTransGen.head (.listText earlier rest key text)
      have hrest := ih (earlier ++ [(key, toJson [text])])
      rwa [List.append_assoc, List.append_assoc] at hrest
    | array items =>
      apply (reflTransGen_dropItems earlier rest key [] items).trans
      have hrest := ih (earlier ++ [(key, toJson (items.filterMap Json.string?))])
      rwa [List.append_assoc, List.append_assoc] at hrest
    | _ => exact .head (.dropMember earlier rest key nofun nofun) (ih earlier)

/-- Members in key order are read in key order. -/
theorem entries_metaOfMembers (members : SortedMap Json) :
    (Arguments.metaOfMembers members.entries).entries = readings members.entries := by
  rw [metaOfMembers_eq]
  exact congrArg SortedMap.entries
    (SortedMap.ofList_entries ⟨readings members.entries, pairwise_readings members.sorted⟩)

/-- Two metadata objects with their members in key order are read alike exactly if changes that do
not show lead from one to the other. -/
theorem eqvGen_tidies_iff {first second : SortedMap Json} :
    Relation.EqvGen Tidies first.entries second.entries ↔
      Arguments.metaOfMembers first.entries = Arguments.metaOfMembers second.entries := by
  constructor
  · intro h
    have hreadings : readings first.entries = readings second.entries :=
      eq_of_eqvGen readings Tidies.readings_eq h
    rw [metaOfMembers_eq, metaOfMembers_eq, hreadings]
  · intro h
    have hreadings : readings first.entries = readings second.entries := by
      rw [← entries_metaOfMembers, ← entries_metaOfMembers, h]
    have hway (members : Json.Members) :
        Relation.EqvGen Tidies members (written (readings members)) :=
      Relation.EqvGen.reflTransGen_le_eqvGen Tidies _ _ (reflTransGen_written [] members)
    exact .trans _ _ _ (hway first.entries) (hreadings ▸ .symm _ _ (hway second.entries))

end Metadata

/-! ## Normal forms -/

/-- Metadata written as they are read. -/
def Json.asMetadata : Json → Json
  | .object members => toJson (Arguments.metaOfMembers members)
  | json => json

/-- Tidying does not change the normal form. -/
theorem Metadata.Tidies.asMetadata_eq {first second : Json.Members} (h : Tidies first second) :
    (Json.object first).asMetadata = (Json.object second).asMetadata := by
  rw [Json.asMetadata, Json.asMetadata, metaOfMembers_eq, metaOfMembers_eq, h.readings_eq]

theorem Json.asMetadata_asMetadata (json : Json) :
    json.asMetadata.asMetadata = json.asMetadata := by
  cases json with
  | object members =>
    exact congrArg toJson (Metadata.metaOfMembers_written (Arguments.metaOfMembers members))
  | _ => rfl

namespace Arguments

variable {first second : Arguments} {name : String}

def mapValues (arguments : Arguments) (f : String → Json → Json) : Arguments :=
  arguments.map fun member => (member.1, f member.1 member.2)

theorem get?_mapValues (arguments : Arguments) (f : String → Json → Json) (name : String) :
    (arguments.mapValues f).get? name = (arguments.get? name).map (f name) :=
  SortedMap.lookup_map_entries f arguments name

theorem mapValues_mapValues (arguments : Arguments) {f : String → Json → Json}
    (h : ∀ name json, f name (f name json) = f name json) :
    (arguments.mapValues f).mapValues f = arguments.mapValues f := by
  rw [mapValues, mapValues, List.map_map]
  apply List.map_congr_left
  intro member _
  exact congrArg (member.1, ·) (h member.1 member.2)

theorem mapValues_append_cons {f : String → Json → Json} {value other : Json}
    (h : f name value = f name other) (earlier later : Arguments) :
    mapValues (earlier ++ (name, value) :: later) f =
      mapValues (earlier ++ (name, other) :: later) f := by
  rw [mapValues, mapValues, List.map_append, List.map_append, List.map_cons, List.map_cons, h]

def tidiedAt (arguments : Arguments) (name : String) : Arguments :=
  arguments.mapValues fun other json => if other = name then json.asMetadata else json

theorem get?_tidiedAt (arguments : Arguments) (name : String) :
    (arguments.tidiedAt name).get? name = (arguments.get? name).map Json.asMetadata := by
  rw [tidiedAt, get?_mapValues]
  simp only [if_true]

theorem get?_tidiedAt_of_ne {other : String} (h : other ≠ name) (arguments : Arguments) :
    (arguments.tidiedAt name).get? other = arguments.get? other := by
  rw [tidiedAt, get?_mapValues]
  simp only [if_neg h]
  exact Option.map_id'

theorem tidiedAt_tidiedAt (arguments : Arguments) (name : String) :
    (arguments.tidiedAt name).tidiedAt name = arguments.tidiedAt name := by
  apply mapValues_mapValues
  intro other json
  split
  · exact json.asMetadata_asMetadata
  · rfl

/-- Metadata in normal form are read as before. -/
theorem metadata_of_get?_eq (h : first.get? name = (second.get? name).map Json.asMetadata) :
    first.metadata name = second.metadata name := by
  rw [metadata, metadata, h]
  cases second.get? name with
  | none => rfl
  | some json =>
    cases json with
    | object members => exact Metadata.metaOfMembers_written (metaOfMembers members)
    | _ => rfl

theorem metadata_tidiedAt (arguments : Arguments) (name : String) :
    (arguments.tidiedAt name).metadata name = arguments.metadata name :=
  metadata_of_get?_eq (arguments.get?_tidiedAt name)

theorem batchEntry_tidiedAt (entry : Arguments) :
    batchEntry (entry.tidiedAt "meta") = batchEntry entry := by
  have hstring (name : String) (h : name ≠ "meta") :
      (entry.tidiedAt "meta").string name = entry.string name := by
    rw [string, string, get?_tidiedAt_of_ne h]
  have hrevision :
      (entry.tidiedAt "meta").bool "save_revision" = entry.bool "save_revision" := by
    rw [bool, bool, get?_tidiedAt_of_ne (by decide)]
  rw [batchEntry, batchEntry, hstring "key" (by decide), hstring "lang" (by decide),
    metadata_tidiedAt, hstring "content_md" (by decide), hrevision]

theorem documentRef_tidiedAt (entry : Arguments) :
    documentRef (entry.tidiedAt "meta") = documentRef entry := by
  rw [documentRef, documentRef, string, string, string, string,
    get?_tidiedAt_of_ne (by decide), get?_tidiedAt_of_ne (by decide)]

/-- A change of the metadata under a name that does not show. -/
inductive TidiesAt (name : String) : Arguments → Arguments → Prop where
  | intro (earlier later : Arguments) {members others : Json.Members}
      (h : Metadata.Tidies members others) :
    TidiesAt name (earlier ++ (name, .object members) :: later)
      (earlier ++ (name, .object others) :: later)

theorem TidiesAt.tidiedAt_eq (h : TidiesAt name first second) :
    first.tidiedAt name = second.tidiedAt name := by
  cases h with
  | intro earlier later h =>
    apply mapValues_append_cons
    rw [if_pos rfl, if_pos rfl, h.asMetadata_eq]

theorem TidiesAt.metadata_eq (h : TidiesAt name first second) :
    first.metadata name = second.metadata name := by
  rw [← metadata_tidiedAt, h.tidiedAt_eq, metadata_tidiedAt]

end Arguments

/-! ## Tools -/

def Json.asDocument : Json → Json
  | .object entry => .object (Arguments.tidiedAt entry "meta")
  | json => json

def ArgumentType.tidied : ArgumentType → Json → Json
  | .metadata, json => json.asMetadata
  | .entries, .array items => .array (items.map Json.asDocument)
  | _, json => json

theorem ArgumentType.tidied_tidied (type : ArgumentType) (json : Json) :
    type.tidied (type.tidied json) = type.tidied json := by
  have hdocument (item : Json) : item.asDocument.asDocument = item.asDocument := by
    cases item with
    | object entry => exact congrArg Json.object (Arguments.tidiedAt_tidiedAt entry "meta")
    | _ => rfl
  cases type with
  | metadata => exact json.asMetadata_asMetadata
  | entries =>
    cases json with
    | array items =>
      rw [tidied, tidied, List.map_map]
      exact congrArg Json.array (List.map_congr_left fun item _ => hdocument item)
    | _ => rfl
  | _ => rfl

namespace Arguments

variable {first second : Arguments} {name : String}

/-- Documents can be brought into normal form before or after they are read. -/
theorem entriesFrom_map_asDocument (name : String) (index : Nat) (items : List Json) :
    entriesFrom name index (items.map Json.asDocument) =
      (entriesFrom name index items).map (·.map (·.tidiedAt "meta")) := by
  induction items generalizing index with
  | nil => rfl
  | cons item rest ih =>
    cases item with
    | object entry =>
      rw [List.map_cons, Json.asDocument, entriesFrom_cons_of_object, entriesFrom_cons_of_object,
        ih]
      cases entriesFrom name (index + 1) rest <;> rfl
    | _ => rfl

/-- What is read of a document without regard to the form of its metadata is read of every document
of a batch in normal form as before. -/
theorem map_entries_of_get?_eq {α : Type} {read : Arguments → α}
    (hread : ∀ entry, read (entry.tidiedAt "meta") = read entry)
    (h : first.get? name = (second.get? name).map (ArgumentType.tidied .entries)) :
    (first.entries name).map (·.map read) = (second.entries name).map (·.map read) := by
  rw [entries, entries, h]
  cases second.get? name with
  | none => rfl
  | some json =>
    cases json with
    | array items =>
      change (entriesFrom name 0 (items.map Json.asDocument)).map _ =
        (entriesFrom name 0 items).map _
      rw [entriesFrom_map_asDocument]
      cases entriesFrom name 0 items with
      | error failure => rfl
      | ok found =>
        change Except.ok ((found.map (·.tidiedAt "meta")).map read) = Except.ok (found.map read)
        rw [List.map_map]
        exact congrArg Except.ok (List.map_congr_left fun entry _ => hread entry)
    | _ => rfl

theorem readAlike_of_get?_eq {type : ArgumentType}
    (h : first.get? name = (second.get? name).map type.tidied) :
    first.ReadAlike second name type := by
  have hsame (hplain : ∀ json, type.tidied json = json) : first.ReadAlike second name type := by
    apply SameFor.readAlike
    rw [SameFor, h, funext hplain, Option.map_id']
  cases type with
  | string | integer | boolean => exact hsame fun _ => rfl
  | metadata => exact metadata_of_get?_eq h
  | entries =>
    exact ⟨map_entries_of_get?_eq batchEntry_tidiedAt h,
      map_entries_of_get?_eq documentRef_tidiedAt h⟩

end Arguments

namespace Tool

variable {tool : Tool} {first second : Arguments}

/-- The arguments of a tool with all metadata that the tool takes in normal form. -/
def tidied (tool : Tool) (arguments : Arguments) : Arguments :=
  arguments.mapValues fun name json =>
    match tool.declared.lookup name with
    | some type => type.tidied json
    | none => json

theorem get?_tidied {name : String} {type : ArgumentType} (h : (name, type) ∈ tool.declared)
    (arguments : Arguments) :
    (tool.tidied arguments).get? name = (arguments.get? name).map type.tidied := by
  rw [tidied, Arguments.get?_mapValues]
  simp only [lookup_declared h]

theorem tidied_tidied (tool : Tool) (arguments : Arguments) :
    tool.tidied (tool.tidied arguments) = tool.tidied arguments := by
  apply Arguments.mapValues_mapValues
  intro name json
  cases tool.declared.lookup name with
  | some type => exact type.tidied_tidied json
  | none => rfl

/-- A change of metadata that a tool takes, by themselves or in a document of a batch, that does not
show. -/
inductive Tidies (tool : Tool) : Arguments → Arguments → Prop where
  | argument {name : String} {first second : Arguments}
      (hname : (name, .metadata) ∈ tool.declared) (h : first.TidiesAt name second) :
    Tidies tool first second
  | document (earlier later : Arguments) {name : String} (front back : List Json)
      {entry other : Arguments} (hname : (name, .entries) ∈ tool.declared)
      (h : Arguments.TidiesAt "meta" entry other) :
    Tidies tool (earlier ++ (name, .array (front ++ .object entry :: back)) :: later)
      (earlier ++ (name, .array (front ++ .object other :: back)) :: later)

theorem Tidies.tidied_eq (h : tool.Tidies first second) :
    tool.tidied first = tool.tidied second := by
  cases h with
  | argument hname h =>
    cases h with
    | intro earlier later h =>
      apply Arguments.mapValues_append_cons
      simp only [lookup_declared hname, ArgumentType.tidied, h.asMetadata_eq]
  | document earlier later front back hname h =>
    apply Arguments.mapValues_append_cons
    simp only [lookup_declared hname, ArgumentType.tidied, List.map_append, List.map_cons,
      Json.asDocument, h.tidiedAt_eq]

/-- The objects in the arguments of a tool in which metadata are looked for, with their names
there. -/
def metadataPlaces (tool : Tool) (arguments : Arguments) : List (Arguments × String) :=
  match tool with
  | .addDocument => [(arguments, "meta")]
  | .searchDocuments | .exportDocuments => [(arguments, "filter_meta")]
  | .addBatch | .updateBatch =>
    (((arguments.get? "documents").bind Json.items?).getD []).filterMap fun item =>
      item.members?.map (·, "meta")
  | _ => []

end Tool

namespace ToolCall

variable {tool : Tool} {arguments : Arguments}

def metadata : ToolCall → List Meta
  | .addDocument request => [request.metadata]
  | .searchDocuments request => [request.filterMeta]
  | .exportDocuments request => [request.filterMeta]
  | .addBatch batch | .updateBatch batch => batch.documents.map (·.metadata)
  | _ => []

/-- A call is decoded from the normal form as from the arguments themselves. -/
theorem decode_tidied (tool : Tool) (arguments : Arguments) :
    decode tool.name (tool.tidied arguments) = decode tool.name arguments := by
  rw [decode, decode, Tool.ofName?_name]
  exact ofArguments_eq_of_readAlike tool fun _ _ hname =>
    Arguments.readAlike_of_get?_eq (Tool.get?_tidied hname arguments)

theorem metadata_of_writeBatch {batch : WriteBatch} (h : writeBatch arguments = .ok batch) :
    batch.documents.map (·.metadata) =
      (Tool.addBatch.metadataPlaces arguments).map fun place => place.1.metadata place.2 := by
  rw [writeBatch_eq, takeBatch_eq_ok_iff] at h
  obtain ⟨collection, _, -, hdocuments, -, rfl⟩ := h
  obtain ⟨entries, hentries, rfl⟩ := map_eq_ok_iff.1 hdocuments
  have hplaces : Tool.addBatch.metadataPlaces arguments = entries.map (·, "meta") := by
    rw [Tool.metadataPlaces, Arguments.entries_eq_ok_iff.1 hentries, Option.bind_some, Json.items?,
      Option.getD_some, List.filterMap_map]
    exact congrFun List.filterMap_eq_map entries
  rw [hplaces, List.map_map, List.map_map]
  rfl

/-- The metadata of a decoded call is what stands at the places for it. -/
theorem metadata_of_decode {toolCall : ToolCall} (h : decode tool.name arguments = .ok toolCall) :
    toolCall.metadata =
      (tool.metadataPlaces arguments).map fun place => place.1.metadata place.2 := by
  rw [decode, Tool.ofName?_name] at h
  cases tool with
  | addBatch | updateBatch =>
    obtain ⟨batch, hbatch, rfl⟩ := map_eq_ok_iff.1 h
    exact metadata_of_writeBatch hbatch
  | deleteBatch =>
    obtain ⟨batch, -, rfl⟩ := map_eq_ok_iff.1 h
    rfl
  | getStats | truncateRevisions =>
    cases h
    rfl
  | addDocument =>
    simp only [ofArguments, bind_eq_ok_iff, pure_eq_ok_iff] at h
    obtain ⟨_, -, _, -, _, -, _, -, rfl⟩ := h
    rfl
  | deleteDocument =>
    simp only [ofArguments, bind_eq_ok_iff, pure_eq_ok_iff] at h
    obtain ⟨_, -, _, -, _, -, rfl⟩ := h
    rfl
  | searchDocuments | deleteCollection | exportDocuments | createBackup | restoreBackup =>
    simp only [ofArguments, bind_eq_ok_iff, pure_eq_ok_iff] at h
    obtain ⟨_, -, rfl⟩ := h
    rfl

/-- However metadata are given, what is read of them is read of their normal form.  Changes that do
not show lead to the same metadata, metadata are read back from their JSON form, and the keys are
those with a text or a list, where every key stands once.  The same holds of what a tool makes of
its arguments, since all metadata of a call are read in this way. -/
theorem metadata_has_one_normal_form :
    (∀ (first second : Arguments) (name : String),
      Relation.EqvGen (Arguments.TidiesAt name) first second →
      first.metadata name = second.metadata name) ∧
    (∀ (arguments : Arguments) (name : String) (metadata : Meta),
      arguments.get? name = some (toJson metadata) → arguments.metadata name = metadata) ∧
    (∀ (arguments : Arguments) (name : String),
      (∀ members, arguments.get? name = some (.object members) →
        (members.map Prod.fst).Nodup) →
      ∀ key values, (arguments.metadata name).get? key = some values ↔
        ∃ members, arguments.get? name = some (.object members) ∧
          Metadata.HasValues members key values) ∧
    ∀ tool : Tool,
      (∀ first second, Relation.EqvGen tool.Tidies first second →
        tool.tidied first = tool.tidied second ∧
          decode tool.name first = decode tool.name second) ∧
      (∀ arguments, tool.tidied (tool.tidied arguments) = tool.tidied arguments ∧
        decode tool.name (tool.tidied arguments) = decode tool.name arguments) ∧
      ∀ arguments toolCall, decode tool.name arguments = .ok toolCall →
        toolCall.metadata =
          (tool.metadataPlaces arguments).map fun place => place.1.metadata place.2 := by
  refine ⟨fun first second name h => ?_, fun arguments name metadata h => ?_,
    fun arguments name h key values => Metadata.get?_metadata_eq_some_iff h,
    fun tool => ⟨fun first second h => ?_, fun arguments => ?_, fun arguments toolCall h => ?_⟩⟩
  · exact eq_of_eqvGen (·.metadata name) Arguments.TidiesAt.metadata_eq h
  · exact Arguments.metadata_of_holds ⟨toJson metadata, h, rfl⟩
  · have htidied : tool.tidied first = tool.tidied second :=
      eq_of_eqvGen tool.tidied Tool.Tidies.tidied_eq h
    refine ⟨htidied, ?_⟩
    calc decode tool.name first = decode tool.name (tool.tidied first) :=
          (decode_tidied tool first).symm
      _ = decode tool.name (tool.tidied second) := by rw [htidied]
      _ = decode tool.name second := decode_tidied tool second
  · exact ⟨tool.tidied_tidied arguments, decode_tidied tool arguments⟩
  · exact metadata_of_decode h

/-- A list with an item that is no text, a member that is neither text nor list, and a single
text. -/
def untidyMembers : Json.Members :=
  [("by", .array [.string "ann", .null]), ("draft", .bool true), ("tag", .string "rust")]

def tidyMembers : Json.Members :=
  [("by", .array [.string "ann"]), ("tag", .array [.string "rust"])]

/-- Wherever changes in metadata are made, three of them lead from one to the other. -/
theorem eqvGen_untidyMembers {α : Type} {change : α → α → Prop} (place : Json.Members → α)
    (hplace : ∀ {members others}, Metadata.Tidies members others →
      change (place members) (place others)) :
    Relation.EqvGen change (place untidyMembers) (place tidyMembers) := by
  have hitem : ∀ text, Json.null ≠ .string text := nofun
  have htext : ∀ text, Json.bool true ≠ .string text := nofun
  have hlist : ∀ items, Json.bool true ≠ .array items := nofun
  apply Relation.EqvGen.trans _ _ _ (.rel _ _ (hplace (.dropItem [] _ "by" [_] [] hitem)))
  apply Relation.EqvGen.trans _ _ _ (.rel _ _ (hplace (.dropMember [_] _ "draft" htext hlist)))
  exact .rel _ _ (hplace (.listText [_] [] "tag" "rust"))

def documentWith (metadata : Json.Members) : Arguments :=
  [("key", .string "setup"), ("meta", .object metadata)]

def updateOf (document : Arguments) : Arguments :=
  [("collection", .string "guides"), ("documents", .array [.object document])]

theorem untidy_update_has_normal_form :
    let untidy := updateOf (documentWith untidyMembers)
    let tidy := updateOf (documentWith tidyMembers)
    let metadata : Meta := .ofList [("by", ["ann"]), ("tag", ["rust"])]
    let toolCall : ToolCall := .updateBatch ⟨"guides", [⟨"setup", "", metadata, "", false⟩]⟩
    (documentWith untidyMembers).metadata "meta" = (documentWith tidyMembers).metadata "meta" ∧
    (documentWith tidyMembers).metadata "meta" = metadata ∧
    ((documentWith untidyMembers).metadata "meta").get? "by" = some ["ann"] ∧
    Tool.updateBatch.tidied untidy = Tool.updateBatch.tidied tidy ∧
    decode "update_documents_batch" untidy = decode "update_documents_batch" tidy ∧
    decode "update_documents_batch" untidy = .ok toolCall ∧
    toolCall.metadata = [(documentWith untidyMembers).metadata "meta"] := by
  intro untidy tidy metadata toolCall
  obtain ⟨hsame, hjson, hkeys, htools⟩ := metadata_has_one_normal_form
  obtain ⟨hchanged, -, hread⟩ := htools .updateBatch
  have hdocument : Relation.EqvGen (Arguments.TidiesAt "meta") (documentWith untidyMembers)
      (documentWith tidyMembers) :=
    eqvGen_untidyMembers documentWith (.intro [("key", .string "setup")] [])
  have hupdate : Relation.EqvGen Tool.updateBatch.Tidies untidy tidy :=
    eqvGen_untidyMembers (fun members => updateOf (documentWith members)) fun h =>
      .document [("collection", .string "guides")] [] [] [] (by decide)
        (.intro [("key", .string "setup")] [] h)
  have hdistinct : ∀ members, (documentWith untidyMembers).get? "meta" = some (.object members) →
      (members.map Prod.fst).Nodup := by
    intro members h
    cases h
    decide
  have hwritten : (documentWith tidyMembers).get? "meta" = some (toJson metadata) := rfl
  have hdecode : decode "update_documents_batch" untidy = .ok toolCall := by
    decide +kernel
  refine ⟨hsame _ _ "meta" hdocument, hjson _ "meta" _ hwritten, ?_, (hchanged _ _ hupdate).1,
    (hchanged _ _ hupdate).2, hdecode, hread _ _ hdecode⟩
  exact (hkeys _ "meta" hdistinct "by" _).2 ⟨untidyMembers, rfl, .inr ⟨_, rfl, rfl⟩⟩

end ToolCall

end DocBridge
