import DocBridge.Proofs.DecodedArguments
import DocBridge.Proofs.Rounding

/-!
# Every tool call can be asked for

A call is written as arguments under the names that the schema of its tool gives them: texts and
truth values as they are, integers as numbers, metadata as an object of lists, batches as lists of
objects.  Such arguments are decoded as the call, in whatever order the members of their objects
are written, as long as no required text is empty and every entry of a batch has a key.
-/

namespace DocBridge

open Json (toJson)

/-! ## Sorted objects -/

namespace Json

theorem lookup_sortedMembers (members : Members) (name : String) :
    (sortedMembers members).lookup name = (members.lookup name).map sorted := by
  rw [sortedMembers_eq_map, SortedMap.lookup_map_values]

/-- Objects that are the same in key order have the same members. -/
theorem lookup_of_sorted_eq {first second : Members}
    (h : (Json.object first).sorted = (Json.object second).sorted) (name : String) :
    (first.lookup name).map sorted = (second.lookup name).map sorted := by
  have hmaps : SortedMap.ofList (sortedMembers first) = SortedMap.ofList (sortedMembers second) :=
    SortedMap.ext_entries (Json.object.inj h)
  rw [← lookup_sortedMembers, ← lookup_sortedMembers, ← SortedMap.get?_ofList,
    ← SortedMap.get?_ofList, hmaps]

section Shape

variable {json : Json}

theorem eq_string_of_sorted_eq {text : String} (h : json.sorted = (Json.string text).sorted) :
    json = .string text := by
  cases json <;> first | exact h | cases h

theorem eq_bool_of_sorted_eq {value : Bool} (h : json.sorted = (Json.bool value).sorted) :
    json = .bool value := by
  cases json <;> first | exact h | cases h

theorem eq_number_of_sorted_eq {value : Number} (h : json.sorted = (Json.number value).sorted) :
    json = .number value := by
  cases json <;> first | exact h | cases h

theorem exists_items_of_sorted_eq {items : List Json}
    (h : json.sorted = (Json.array items).sorted) :
    ∃ others, json = .array others ∧ others.map sorted = items.map sorted := by
  cases json with
  | array others =>
    have hitems : sortedItems others = sortedItems items := Json.array.inj h
    rw [sortedItems_eq_map, sortedItems_eq_map] at hitems
    exact ⟨others, rfl, hitems⟩
  | _ => cases h

theorem exists_members_of_sorted_eq {members : Members}
    (h : json.sorted = (Json.object members).sorted) : ∃ others, json = .object others := by
  cases json with
  | object others => exact ⟨others, rfl⟩
  | _ => cases h

end Shape

theorem string?_sorted (json : Json) : json.sorted.string? = json.string? := by
  cases json <;> rfl

end Json

/-! ## Arguments -/

namespace Arguments

/-- Arguments hold a value under a name, up to the order of the members in it. -/
def Holds (arguments : Arguments) (name : String) (value : Json) : Prop :=
  ∃ json, arguments.get? name = some json ∧ json.sorted = value.sorted

/-- An argument is held in any order of the members. -/
theorem holds_of_lookup {arguments members : Arguments}
    (h : (Json.object arguments).sorted = (Json.object members).sorted) {name : String}
    {value : Json} (hvalue : members.lookup name = some value) : arguments.Holds name value := by
  have hlookup := Json.lookup_of_sorted_eq h name
  rw [hvalue] at hlookup
  obtain ⟨json, hjson, hsorted⟩ := Option.map_eq_some_iff.1 hlookup
  exact ⟨json, hjson, hsorted⟩

theorem clamp_of_le {low high n : Int} (hlow : low ≤ n) (hhigh : n ≤ high) :
    clamp low high n = n := by
  rw [clamp, Int.min_eq_left hhigh, Int.max_eq_right hlow]

/-- The range of 64 bits that is passed on the way to 32 bits makes no difference. -/
theorem toInt_toInt32_toInt64 (n : Number) :
    (toInt32 (toInt64 n)).toInt = clamp (-0x80000000) 0x7FFFFFFF n.toDouble.truncate := by
  have hwide : (toInt64 n).toInt =
      clamp (-0x8000000000000000) 0x7FFFFFFFFFFFFFFF n.toDouble.truncate := by
    apply Int64.toInt_ofInt_of_le <;> simp only [clamp] <;> omega
  calc (toInt32 (toInt64 n)).toInt = clamp (-0x80000000) 0x7FFFFFFF (toInt64 n).toInt := by
        apply Int32.toInt_ofInt_of_le <;> simp only [clamp] <;> omega
    _ = clamp (-0x80000000) 0x7FFFFFFF n.toDouble.truncate := by
        rw [hwide]
        simp only [clamp]
        omega

/-- A double has room for all integers of 32 bits. -/
theorem toInt32_toInt64_ofInt32 (n : Int32) : toInt32 (toInt64 (.ofInt32 n)) = n := by
  have hlow := n.le_toInt
  have hhigh := n.toInt_lt
  have hbound : n.toInt.natAbs ≤ 2 * 0x10000000000000 := by omega
  have htruncate : (Number.ofInt32 n).toDouble.truncate = n.toInt := Binary64.truncate_ofInt hbound
  apply Int32.toInt_inj.1
  rw [toInt_toInt32_toInt64, htruncate, clamp_of_le (by omega) (by omega)]

section Values

variable {arguments : Arguments} {name : String}

theorem string_of_holds {text : String} (h : arguments.Holds name (toJson text)) :
    arguments.string name = text := by
  obtain ⟨json, hjson, hsorted⟩ := h
  rw [string, hjson, Json.eq_string_of_sorted_eq hsorted]
  rfl

theorem requiredString_of_holds {text : String} (h : arguments.Holds name (toJson text))
    (hfilled : text ≠ "") : arguments.requiredString name = .ok text := by
  rw [requiredString, string_of_holds h, if_neg hfilled]

theorem bool_of_holds {value : Bool} (h : arguments.Holds name (toJson value)) :
    arguments.bool name = value := by
  obtain ⟨json, hjson, hsorted⟩ := h
  rw [bool, hjson, Json.eq_bool_of_sorted_eq hsorted]
  rfl

theorem int32_of_holds {value : Int32} (h : arguments.Holds name (toJson value)) :
    arguments.int32 name = value := by
  obtain ⟨json, hjson, hsorted⟩ := h
  rw [int32, int64, hjson, Json.eq_number_of_sorted_eq hsorted]
  exact toInt32_toInt64_ofInt32 value

/-! ### Metadata -/

theorem metaValues?_sorted (json : Json) : metaValues? json.sorted = metaValues? json := by
  cases json with
  | array items =>
    have hstring : Json.string? ∘ Json.sorted = Json.string? := funext Json.string?_sorted
    rw [Json.sorted, metaValues?, metaValues?, Json.sortedItems_eq_map, List.filterMap_map,
      hstring]
  | _ => rfl

theorem metaValues?_toJson (values : List String) : metaValues? (toJson values) = some values := by
  change some ((values.map Json.string).filterMap Json.string?) = some values
  rw [List.filterMap_map]
  exact congrArg some List.filterMap_some

/-- Metadata have under a name what is read there, if it can be read. -/
theorem get?_metaOfMembers {members : Json.Members} {key : String}
    (h : ∀ json, members.lookup key = some json → ∃ values, metaValues? json = some values) :
    (metaOfMembers members).get? key = (members.lookup key).bind metaValues? := by
  rw [metaOfMembers, SortedMap.get?_ofList]
  induction members with
  | nil => rfl
  | cons member rest ih =>
    obtain ⟨other, json⟩ := member
    by_cases hkey : key = other
    · subst hkey
      obtain ⟨values, hvalues⟩ := h json List.lookup_cons_self
      rw [List.filterMap_cons_some (by rw [hvalues]; rfl), List.lookup_cons_self,
        List.lookup_cons_self]
      exact hvalues.symm
    · rw [SortedMap.lookup_cons_of_ne hkey] at h ⊢
      rw [← ih h, List.filterMap_cons]
      cases metaValues? json with
      | none => rfl
      | some values => exact SortedMap.lookup_cons_of_ne hkey values _

theorem metadata_of_holds {metadata : Meta} (h : arguments.Holds name (toJson metadata)) :
    arguments.metadata name = metadata := by
  obtain ⟨json, hjson, hsorted⟩ := h
  obtain ⟨members, rfl⟩ := Json.exists_members_of_sorted_eq hsorted
  have hlookup : ∀ key, (members.lookup key).map Json.sorted =
      ((metadata.get? key).map toJson).map Json.sorted := by
    intro key
    rw [SortedMap.get?, ← SortedMap.lookup_map_values toJson]
    exact Json.lookup_of_sorted_eq hsorted key
  have hread : ∀ key json, members.lookup key = some json →
      ∃ values, metaValues? json = some values ∧ metadata.get? key = some values := by
    intro key json hfound
    have hkey := hlookup key
    rw [hfound, Option.map_some, Option.map_map] at hkey
    obtain ⟨values, hvalues, hsame⟩ := Option.map_eq_some_iff.1 hkey.symm
    refine ⟨values, ?_, hvalues⟩
    rw [← metaValues?_sorted, ← hsame, Function.comp_apply, metaValues?_sorted, metaValues?_toJson]
  have hmembers : arguments.metadata name = metaOfMembers members := by
    rw [Arguments.metadata, hjson]
    rfl
  rw [hmembers]
  apply SortedMap.ext_get?
  intro key
  rw [get?_metaOfMembers fun json hfound => (hread key json hfound).imp fun _ => And.left]
  cases hfound : members.lookup key with
  | some json =>
    obtain ⟨values, hvalues, hget⟩ := hread key json hfound
    rw [hget]
    exact hvalues
  | none =>
    have hkey := hlookup key
    rw [hfound, Option.map_map] at hkey
    exact (Option.map_eq_none_iff.1 hkey.symm).symm

/-! ### Entries -/

section Entries

variable {α : Type} {members : α → Arguments} {read : Arguments → α}
  (hread : ∀ entry value, (Json.object entry).sorted = (Json.object (members value)).sorted →
    read entry = value)
include hread

/-- Documents are read back from their members in any order. -/
theorem entriesFrom_of_sorted_eq (index : Nat) {items : List Json} {values : List α}
    (h : items.map Json.sorted = values.map fun value => (Json.object (members value)).sorted) :
    (entriesFrom name index items).map (·.map read) = .ok values := by
  induction values generalizing items index with
  | nil =>
    rw [List.map_nil, List.map_eq_nil_iff] at h
    rw [h]
    rfl
  | cons value rest ih =>
    obtain ⟨item, others, rfl, hitem, hothers⟩ := List.map_eq_cons_iff.1 h
    obtain ⟨entry, rfl⟩ := Json.exists_members_of_sorted_eq hitem
    have hrest := ih (index + 1) hothers
    have hvalue := hread entry value hitem
    cases hentries : entriesFrom name (index + 1) others with
    | error failure =>
      rw [hentries] at hrest
      cases hrest
    | ok entries =>
      rw [hentries] at hrest
      have hentries' : entries.map read = rest := Except.ok.inj hrest
      simp only [entriesFrom, Json.members?, hentries]
      change Except.ok (read entry :: entries.map read) = _
      rw [hvalue, hentries']

theorem entries_of_holds {values : List α}
    (h : arguments.Holds name (.array (values.map fun value => .object (members value)))) :
    (arguments.entries name).map (·.map read) = .ok values := by
  obtain ⟨json, hjson, hsorted⟩ := h
  obtain ⟨items, rfl, hitems⟩ := Json.exists_items_of_sorted_eq hsorted
  rw [List.map_map] at hitems
  rw [entries, hjson]
  exact entriesFrom_of_sorted_eq hread 0 hitems

end Entries

end Values

end Arguments

/-! ## Calls -/

open Arguments

def BatchEntry.arguments (entry : BatchEntry) : Arguments :=
  [("key", toJson entry.key), ("lang", toJson entry.lang), ("meta", toJson entry.metadata),
    ("content_md", toJson entry.contentMd), ("save_revision", toJson entry.saveRevision)]

def DocumentRef.arguments (document : DocumentRef) : Arguments :=
  [("key", toJson document.key), ("lang", toJson document.lang)]

theorem batchEntry_of_sorted_eq (entry : Arguments) (document : BatchEntry)
    (h : (Json.object entry).sorted = (Json.object document.arguments).sorted) :
    batchEntry entry = document := by
  have hkey : entry.string "key" = document.key := string_of_holds (holds_of_lookup h rfl)
  have hlang : entry.string "lang" = document.lang := string_of_holds (holds_of_lookup h rfl)
  have hmeta : entry.metadata "meta" = document.metadata :=
    metadata_of_holds (holds_of_lookup h rfl)
  have hcontent : entry.string "content_md" = document.contentMd :=
    string_of_holds (holds_of_lookup h rfl)
  have hrevision : entry.bool "save_revision" = document.saveRevision :=
    bool_of_holds (holds_of_lookup h rfl)
  rw [batchEntry, hkey, hlang, hmeta, hcontent, hrevision]

theorem documentRef_of_sorted_eq (entry : Arguments) (document : DocumentRef)
    (h : (Json.object entry).sorted = (Json.object document.arguments).sorted) :
    documentRef entry = document := by
  have hkey : entry.string "key" = document.key := string_of_holds (holds_of_lookup h rfl)
  have hlang : entry.string "lang" = document.lang := string_of_holds (holds_of_lookup h rfl)
  rw [documentRef, hkey, hlang]

namespace ToolCall

/-- The arguments of a call: every field under its name, in the order of the tool's schema. -/
def arguments : ToolCall → Arguments
  | .addDocument request =>
    [("collection", toJson request.collection), ("key", toJson request.key),
      ("lang", toJson request.lang), ("content_md", toJson request.contentMd),
      ("meta", toJson request.metadata), ("save_revision", toJson request.saveRevision)]
  | .searchDocuments request =>
    [("collection", toJson request.collection), ("filter_meta", toJson request.filterMeta),
      ("sort", toJson request.sort), ("asc", toJson request.asc), ("limit", toJson request.limit),
      ("offset", toJson request.offset)]
  | .deleteDocument request =>
    [("collection", toJson request.collection), ("key", toJson request.key),
      ("lang", toJson request.lang)]
  | .deleteCollection request => [("collection", toJson request.collection)]
  | .addBatch batch | .updateBatch batch =>
    [("collection", toJson batch.collection),
      ("documents", .array (batch.documents.map fun entry => .object entry.arguments))]
  | .deleteBatch batch =>
    [("collection", toJson batch.collection),
      ("documents", .array (batch.documents.map fun document => .object document.arguments))]
  | .getStats => []
  | .exportDocuments request =>
    [("collection", toJson request.collection), ("filter_meta", toJson request.filterMeta),
      ("format", toJson request.format)]
  | .createBackup request => [("to", toJson request.destination)]
  | .restoreBackup request => [("from", toJson request.source)]
  | .truncateRevisions request =>
    [("collection", toJson request.collection), ("keep_revs", toJson request.keepRevs),
      ("drop_cache", toJson request.dropCache)]

def batchKeys : ToolCall → List String
  | .addBatch batch | .updateBatch batch => batch.documents.map (·.key)
  | .deleteBatch batch => batch.documents.map (·.key)
  | _ => []

/-- The texts that the schema of a call's tool requires are not empty. -/
def IsFilled (toolCall : ToolCall) : Prop :=
  ∀ name, (name, ArgumentType.string) ∈ toolCall.tool.arguments.required →
    toolCall.arguments.get? name ≠ some (.string "")

/-- What the schema of a tool requires as a text is filled in its arguments. -/
theorem IsFilled.ne_empty {toolCall : ToolCall} (h : toolCall.IsFilled) {text : String}
    (name : String) (hrequired : (name, ArgumentType.string) ∈ toolCall.tool.arguments.required)
    (htext : toolCall.arguments.lookup name = some (toJson text)) : text ≠ "" := by
  rintro rfl
  exact h name hrequired htext

/-- The arguments stand under the names of the schema. -/
theorem names_arguments (toolCall : ToolCall) : toolCall.arguments.map Prod.fst =
    (toolCall.tool.arguments.required ++ toolCall.tool.arguments.optional).map Prod.fst := by
  cases toolCall <;> rfl

section Decoding

variable {arguments : Arguments}

theorem writeBatch_eq_ok {batch : WriteBatch} (hfilled : batch.collection ≠ "")
    (hkeys : ∀ key ∈ batch.documents.map (·.key), key ≠ "")
    (hcollection : arguments.Holds "collection" (toJson batch.collection))
    (hdocuments : arguments.Holds "documents"
      (.array (batch.documents.map fun entry => .object entry.arguments))) :
    writeBatch arguments = .ok batch := by
  rw [writeBatch_eq, takeBatch_eq_ok_iff]
  exact ⟨_, _, requiredString_of_holds hcollection hfilled,
    entries_of_holds batchEntry_of_sorted_eq hdocuments, by simpa using hkeys, rfl⟩

theorem deletions_eq_ok {batch : DeleteBatch} (hfilled : batch.collection ≠ "")
    (hkeys : ∀ key ∈ batch.documents.map (·.key), key ≠ "")
    (hcollection : arguments.Holds "collection" (toJson batch.collection))
    (hdocuments : arguments.Holds "documents"
      (.array (batch.documents.map fun document => .object document.arguments))) :
    deletions arguments = .ok batch := by
  rw [deletions_eq, takeBatch_eq_ok_iff]
  exact ⟨_, _, requiredString_of_holds hcollection hfilled,
    entries_of_holds documentRef_of_sorted_eq hdocuments, by simpa using hkeys, rfl⟩

/-- A tool call is read back from its own arguments, in any order of the members. -/
theorem ofArguments_eq_ok {toolCall : ToolCall} (hfilled : toolCall.IsFilled)
    (hkeys : ∀ key ∈ toolCall.batchKeys, key ≠ "")
    (hsame : (Json.object arguments).sorted = (Json.object toolCall.arguments).sorted) :
    ofArguments toolCall.tool arguments = .ok toolCall := by
  have required {name text : String}
      (hrequired : (name, ArgumentType.string) ∈ toolCall.tool.arguments.required)
      (htext : toolCall.arguments.lookup name = some (toJson text)) :
      arguments.requiredString name = .ok text :=
    requiredString_of_holds (holds_of_lookup hsame htext) (hfilled.ne_empty name hrequired htext)
  cases toolCall with
  | addDocument request =>
    have hcollection : arguments.requiredString "collection" = .ok request.collection :=
      required (by simp [tool, Tool.arguments]) rfl
    have hkey : arguments.requiredString "key" = .ok request.key :=
      required (by simp [tool, Tool.arguments]) rfl
    have hlang : arguments.requiredString "lang" = .ok request.lang :=
      required (by simp [tool, Tool.arguments]) rfl
    have hcontent : arguments.requiredString "content_md" = .ok request.contentMd :=
      required (by simp [tool, Tool.arguments]) rfl
    have hmeta : arguments.metadata "meta" = request.metadata :=
      metadata_of_holds (holds_of_lookup hsame rfl)
    have hrevision : arguments.bool "save_revision" = request.saveRevision :=
      bool_of_holds (holds_of_lookup hsame rfl)
    simp only [tool, ofArguments, hcollection, hkey, hlang, hcontent, hmeta, hrevision, bind,
      Except.bind]
    rfl
  | searchDocuments request =>
    have hcollection : arguments.requiredString "collection" = .ok request.collection :=
      required (by simp [tool, Tool.arguments]) rfl
    have hfilter : arguments.metadata "filter_meta" = request.filterMeta :=
      metadata_of_holds (holds_of_lookup hsame rfl)
    have hsort : arguments.string "sort" = request.sort :=
      string_of_holds (holds_of_lookup hsame rfl)
    have hasc : arguments.bool "asc" = request.asc := bool_of_holds (holds_of_lookup hsame rfl)
    have hlimit : arguments.int32 "limit" = request.limit :=
      int32_of_holds (holds_of_lookup hsame rfl)
    have hoffset : arguments.int32 "offset" = request.offset :=
      int32_of_holds (holds_of_lookup hsame rfl)
    simp only [tool, ofArguments, hcollection, hfilter, hsort, hasc, hlimit, hoffset, bind,
      Except.bind]
    rfl
  | deleteDocument request =>
    have hcollection : arguments.requiredString "collection" = .ok request.collection :=
      required (by simp [tool, Tool.arguments]) rfl
    have hkey : arguments.requiredString "key" = .ok request.key :=
      required (by simp [tool, Tool.arguments]) rfl
    have hlang : arguments.requiredString "lang" = .ok request.lang :=
      required (by simp [tool, Tool.arguments]) rfl
    simp only [tool, ofArguments, hcollection, hkey, hlang, bind, Except.bind]
    rfl
  | deleteCollection request =>
    have hcollection : arguments.requiredString "collection" = .ok request.collection :=
      required (by simp [tool, Tool.arguments]) rfl
    simp only [tool, ofArguments, hcollection, bind, Except.bind]
    rfl
  | addBatch batch =>
    have hcollection : batch.collection ≠ "" :=
      hfilled.ne_empty "collection" (by simp [tool, Tool.arguments]) rfl
    have hbatch : writeBatch arguments = .ok batch :=
      writeBatch_eq_ok hcollection hkeys (holds_of_lookup hsame rfl) (holds_of_lookup hsame rfl)
    simp only [tool, ofArguments, hbatch]
    rfl
  | updateBatch batch =>
    have hcollection : batch.collection ≠ "" :=
      hfilled.ne_empty "collection" (by simp [tool, Tool.arguments]) rfl
    have hbatch : writeBatch arguments = .ok batch :=
      writeBatch_eq_ok hcollection hkeys (holds_of_lookup hsame rfl) (holds_of_lookup hsame rfl)
    simp only [tool, ofArguments, hbatch]
    rfl
  | deleteBatch batch =>
    have hcollection : batch.collection ≠ "" :=
      hfilled.ne_empty "collection" (by simp [tool, Tool.arguments]) rfl
    have hbatch : deletions arguments = .ok batch :=
      deletions_eq_ok hcollection hkeys (holds_of_lookup hsame rfl) (holds_of_lookup hsame rfl)
    simp only [tool, ofArguments, hbatch]
    rfl
  | getStats => rfl
  | exportDocuments request =>
    have hcollection : arguments.requiredString "collection" = .ok request.collection :=
      required (by simp [tool, Tool.arguments]) rfl
    have hfilter : arguments.metadata "filter_meta" = request.filterMeta :=
      metadata_of_holds (holds_of_lookup hsame rfl)
    have hformat : arguments.string "format" = request.format :=
      string_of_holds (holds_of_lookup hsame rfl)
    simp only [tool, ofArguments, hcollection, hfilter, hformat, bind, Except.bind]
    rfl
  | createBackup request =>
    have hdestination : arguments.requiredString "to" = .ok request.destination :=
      required (by simp [tool, Tool.arguments]) rfl
    simp only [tool, ofArguments, hdestination, bind, Except.bind]
    rfl
  | restoreBackup request =>
    have hsource : arguments.requiredString "from" = .ok request.source :=
      required (by simp [tool, Tool.arguments]) rfl
    simp only [tool, ofArguments, hsource, bind, Except.bind]
    rfl
  | truncateRevisions request =>
    have hcollection : arguments.string "collection" = request.collection :=
      string_of_holds (holds_of_lookup hsame rfl)
    have hkeep : arguments.int32 "keep_revs" = request.keepRevs :=
      int32_of_holds (holds_of_lookup hsame rfl)
    have hdrop : arguments.bool "drop_cache" = request.dropCache :=
      bool_of_holds (holds_of_lookup hsame rfl)
    rw [tool, ofArguments, hcollection, hkeep, hdrop]

end Decoding

/-- Every call whose required texts and keys are not empty is decoded from its arguments, which
stand under the names of its tool's schema, in whatever order the members of objects come. -/
theorem decode_arguments {toolCall : ToolCall} {arguments : Arguments}
    (hfilled : toolCall.IsFilled) (hkeys : ∀ key ∈ toolCall.batchKeys, key ≠ "")
    (hsame : (Json.object arguments).sorted = (Json.object toolCall.arguments).sorted) :
    toolCall.arguments.map Prod.fst =
        (toolCall.tool.arguments.required ++ toolCall.tool.arguments.optional).map Prod.fst ∧
      decode toolCall.tool.name arguments = .ok toolCall := by
  refine ⟨toolCall.names_arguments, ?_⟩
  rw [decode, Tool.ofName?_name]
  exact ofArguments_eq_ok hfilled hkeys hsame

def introBatch : ToolCall :=
  .updateBatch
    { collection := "blog"
      documents := [{ key := "intro", lang := "en_US", metadata := .ofList [("tag", ["b", "a"])]
                      contentMd := "", saveRevision := true }] }

/-- Its arguments, all members the other way round. -/
def reversedIntro : Arguments :=
  [("documents", .array [.object [("save_revision", .bool true), ("content_md", .string ""),
      ("meta", .object [("tag", .array [.string "b", .string "a"])]), ("lang", .string "en_US"),
      ("key", .string "intro")]]),
    ("collection", .string "blog")]

theorem decode_reversedIntro :
    decode "update_documents_batch" reversedIntro = .ok introBatch := by
  have hfilled : introBatch.IsFilled := by
    intro name hname
    simp only [introBatch, tool, Tool.arguments, List.mem_cons, Prod.mk.injEq, reduceCtorEq,
      and_false, List.not_mem_nil, or_false, and_true] at hname
    rw [hname]
    intro hempty
    have htext : "blog" = "" := Json.string.inj (Option.some.inj hempty)
    exact absurd htext (by decide)
  have hkeys : ∀ key ∈ introBatch.batchKeys, key ≠ "" := by decide
  exact (decode_arguments hfilled hkeys rfl).2

end ToolCall

end DocBridge
