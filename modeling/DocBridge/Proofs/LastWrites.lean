import DocBridge.Proofs.RequestAnswers
import DocBridge.Proofs.RequestEdits
import Mathlib.Data.List.Induction

/-!
# Reads see the last write

The requests that a store has answered leave a history of edits.  From the history alone one can
tell what is there under an identifier: the content of the last write of it, unless the document or
its collection was removed later.  Reading a document through its resource answers with that
content and nothing else, and the store holds one document for every identifier that is there.
-/

namespace DocBridge

open Json

/-! ## Histories -/

/-- After this history of edits the last write under the identifier has the given content and was
made in the given collection, in lowercase, and nothing has removed it.  A document is updated only
where there is one. -/
inductive LastWritten (id : String) : List Edit → String → String → Prop
  | written {before later : List Edit} {collection : String} {entry : BatchEntry}
      (hid : documentId collection entry.key entry.lang = id)
      (hlater : ∀ edit ∈ later, edit.Spares id (lowercase collection)) :
      LastWritten id (before ++ .write collection entry :: later) (lowercase collection)
        entry.contentMd
  | updated {before later : List Edit} {collection former content : String} {entry : BatchEntry}
      (hbefore : LastWritten id before former content)
      (hid : documentId collection entry.key entry.lang = id)
      (hlater : ∀ edit ∈ later, edit.Spares id (lowercase collection)) :
      LastWritten id (before ++ .update collection entry :: later) (lowercase collection)
        entry.contentMd

namespace LastWritten

variable {id collection content : String} {history : List Edit}

/-- An edit that spares the last write leaves it the last write. -/
theorem append (h : LastWritten id history collection content) {edit : Edit}
    (hspares : edit.Spares id collection) :
    LastWritten id (history ++ [edit]) collection content := by
  have hextend : ∀ {later : List Edit} {collection : String},
      (∀ other ∈ later, other.Spares id collection) → edit.Spares id collection →
        ∀ other ∈ later ++ [edit], other.Spares id collection := by
    intro later collection hlater hedit other hother
    rcases List.mem_append.1 hother with hother | hother
    · exact hlater other hother
    · rwa [List.mem_singleton.1 hother]
  cases h with
  | written hid hlater =>
    rw [List.append_assoc, List.cons_append]
    exact .written hid (hextend hlater hspares)
  | updated hbefore hid hlater =>
    rw [List.append_assoc, List.cons_append]
    exact .updated hbefore hid (hextend hlater hspares)

end LastWritten

namespace Store

/-- A store with a document under an identifier, in the given collection and of the given
content. -/
def Holds (store : Store) (id collection content : String) : Prop :=
  ∃ stored, store.documents.get? id = some stored ∧ stored.collection = collection ∧
    stored.document.contentMd = content

theorem holds_put {store : Store} {collection : String} {entry : BatchEntry} {id : String}
    (hid : documentId collection entry.key entry.lang = id) :
    (store.put collection entry).2.Holds id (lowercase collection) entry.contentMd :=
  ⟨⟨lowercase collection, (store.put collection entry).1⟩,
    by rw [get?_put, if_pos hid.symm], rfl, rfl⟩

theorem Holds.editAll {store : Store} {id collection content : String}
    (h : store.Holds id collection content) {edits : List Edit}
    (hspares : ∀ edit ∈ edits, edit.Spares id collection) :
    (store.editAll edits).Holds id collection content := by
  obtain ⟨stored, hstored, rfl, hcontent⟩ := h
  exact ⟨stored, get?_editAll_of_spares hstored hspares, rfl, hcontent⟩

theorem Holds.contains {store : Store} {id collection content other key lang : String}
    (h : store.Holds id collection content) (hid : documentId other key lang = id) :
    store.contains other key lang = true := by
  obtain ⟨stored, hstored, -, -⟩ := h
  rw [Store.contains, hid, hstored]
  rfl

/-- What was written last is there. -/
theorem holds_of_lastWritten {store : Store} {id collection content : String}
    {history : List Edit} (h : LastWritten id history collection content) :
    (store.editAll history).Holds id collection content := by
  induction h with
  | written hid hlater =>
    rw [editAll_append]
    exact (holds_put hid).editAll hlater
  | @updated before later collection former content entry hbefore hid hlater ih =>
    have hedit : (store.editAll before).edit (.update collection entry) =
        ((store.editAll before).put collection entry).2 := if_pos (ih.contains hid)
    rw [editAll_append]
    change (((store.editAll before).edit (.update collection entry)).editAll later).Holds _ _ _
    rw [hedit]
    exact (holds_put hid).editAll hlater

/-- What is there after an edit was there before and is spared, unless the edit wrote it. -/
theorem holds_edit_cases {store : Store} {id collection content : String} {edit : Edit}
    (h : (store.edit edit).Holds id collection content) :
    store.Holds id collection content ∧ edit.Spares id collection ∨
      ∃ name entry, documentId name entry.key entry.lang = id ∧ lowercase name = collection ∧
        entry.contentMd = content ∧
        (edit = .write name entry ∨
          edit = .update name entry ∧ store.contains name entry.key entry.lang = true) := by
  obtain ⟨stored, hstored, hcollection, hcontent⟩ := h
  have hholds (hbefore : store.documents.get? id = some stored) :
      store.Holds id collection content := ⟨stored, hbefore, hcollection, hcontent⟩
  have hother {other : String} (hid : id ≠ other) : some other ≠ some id :=
    fun hsame => hid (Option.some.inj hsame).symm
  cases edit with
  | write name entry =>
    rw [Store.edit, get?_put] at hstored
    split at hstored
    · rename_i hid
      obtain rfl := Option.some.inj hstored
      exact .inr ⟨name, entry, hid.symm, hcollection, hcontent, .inl rfl⟩
    · rename_i hid
      exact .inl ⟨hholds hstored, hother hid⟩
  | update name entry =>
    rw [Store.edit] at hstored
    split at hstored
    · rename_i hcontains
      rw [get?_put] at hstored
      split at hstored
      · rename_i hid
        obtain rfl := Option.some.inj hstored
        exact .inr ⟨name, entry, hid.symm, hcollection, hcontent, .inr ⟨rfl, hcontains⟩⟩
      · rename_i hid
        exact .inl ⟨hholds hstored, hother hid⟩
    · rename_i hcontains
      refine .inl ⟨hholds hstored, hother ?_⟩
      rintro rfl
      exact hcontains (by rw [Store.contains, hstored]; rfl)
  | remove name entry =>
    rw [Store.edit, get?_remove] at hstored
    split at hstored
    · cases hstored
    · rename_i hid
      exact .inl ⟨hholds hstored, hother hid⟩
  | clear name =>
    rw [Store.edit, get?_deleteCollection, Option.filter_eq_some_iff] at hstored
    refine .inl ⟨hholds hstored.1, ?_⟩
    rw [← hcollection]
    exact bne_iff_ne.1 hstored.2

/-- What is there in a store that began empty was written last.  The induction is on the history
from its end, as the last edit decides first. -/
theorem lastWritten_of_holds {id collection content : String} {history : List Edit}
    (h : (({} : Store).editAll history).Holds id collection content) :
    LastWritten id history collection content := by
  induction history using List.reverseRecOn generalizing collection content with
  | nil =>
    obtain ⟨stored, hstored, -⟩ := h
    cases hstored
  | append_singleton before edit ih =>
    rw [editAll_append] at h
    rcases holds_edit_cases h with ⟨hbefore, hspares⟩ | ⟨name, entry, hid, rfl, rfl, hedit⟩
    · exact (ih hbefore).append hspares
    · rcases hedit with rfl | ⟨rfl, hcontains⟩
      · exact .written hid nofun
      · rw [Store.contains, hid, Option.isSome_iff_exists] at hcontains
        obtain ⟨former, hformer⟩ := hcontains
        exact .updated (ih ⟨former, hformer, rfl, rfl⟩) hid nofun

/-- A store holds what a history has written last, under every identifier. -/
theorem holds_iff_lastWritten (history : List Edit) (id collection content : String) :
    (({} : Store).editAll history).Holds id collection content ↔
      LastWritten id history collection content :=
  ⟨lastWritten_of_holds, holds_of_lastWritten⟩

theorem mem_keys_iff_holds (store : Store) (id : String) :
    id ∈ store.documents.keys ↔ ∃ collection content, store.Holds id collection content := by
  rw [SortedMap.keys, List.mem_map]
  constructor
  · rintro ⟨⟨_, stored⟩, hentry, rfl⟩
    exact ⟨_, _, stored, SortedMap.get?_eq_some_iff.2 hentry, rfl, rfl⟩
  · rintro ⟨-, -, stored, hstored, -, -⟩
    exact ⟨(id, stored), SortedMap.get?_eq_some_iff.1 hstored, rfl⟩

end Store

/-! ## Reading a document -/

/-- What is answered to a request that reads a document without placeholders, when the store holds
the document and when it does not. -/
theorem Memory.handleRequest_of_reads_document {memory : Memory} (h : memory.failing = false)
    {read : RpcRequest} {uri : String} {request : GetRequest}
    (hreads : read.Reads uri (.document request)) (henv : request.env = ∅) {id : Json}
    (hid : read.id = some id) :
    let name := documentId request.collection request.key request.lang
    let response := (handleRequest Memory.transport read memory).1
    (∀ collection content, memory.store.Holds name collection content →
      response = some (.success (some id) (resourceResult uri mimeMarkdown content))) ∧
    ((∀ collection content, ¬ memory.store.Holds name collection content) →
      response = some (.failure (some id) (-32000) "get: document not found")) := by
  intro name response
  have houtcome := (memory.perform_of_healthy h (.get request)).1
  have hresponse : response = some (.ofOutcome (some id) (Question.outcome
      ⟨.get request, fun reply => resourceResult uri mimeMarkdown reply.contentMd⟩
      (memory.store.answer (.get request)).1)) := by
    rw [← houtcome]
    exact congrArg Prod.fst (handleRequest_of_asks hreads.planRequest_eq hid _ memory)
  have hget : memory.store.get? request =
      (memory.store.documents.get? name).map (·.document) := by
    rw [Store.get?, henv]
    rfl
  rw [hresponse]
  simp only [Store.answer, Memory.answer, hget]
  constructor
  · rintro collection content ⟨stored, hstored, -, rfl⟩
    rw [hstored]
    rfl
  · intro hnone
    have habsent : memory.store.documents.get? name = none := by
      by_contra hsome
      obtain ⟨stored, hstored⟩ := Option.ne_none_iff_exists'.1 hsome
      exact hnone _ _ ⟨stored, hstored, rfl, rfl⟩
    rw [habsent]
    rfl

/-- Whatever requests have been handled since the store was empty, reading a document through its
resource answers with the content of the last write of its identifier, and fails if there was none
or if what it wrote has been removed since.  The store holds one document for every identifier of
which something is there.  A request that is refused is no part of the history, and any other adds
the edits of its call. -/
theorem reads_see_last_write (requests : List RpcRequest) {read : RpcRequest} {uri : String}
    {request : GetRequest} (hreads : read.Reads uri (.document request))
    (henv : request.env = ∅) {id : Json} (hid : read.id = some id) :
    let history := requests.flatMap RpcRequest.edits
    let reached := (answerRequests Memory.transport requests {}).2
    let response := (handleRequest Memory.transport read reached).1
    let name := documentId request.collection request.key request.lang
    (∀ collection content, LastWritten name history collection content →
      response = some (.success (some id) (resourceResult uri mimeMarkdown content))) ∧
    ((∀ collection content, ¬ LastWritten name history collection content) →
      response = some (.failure (some id) (-32000) "get: document not found")) ∧
    (∃ live : List String, live.Nodup ∧ live.length = reached.store.size ∧
      ∀ other, other ∈ live ↔
        ∃ collection content, LastWritten other history collection content) ∧
    ∀ request : RpcRequest, (request.Refused → request.edits = []) ∧
      ∀ call, request.Asks call → request.edits = call.edits := by
  intro history reached response name
  obtain ⟨hhealthy, hstore⟩ := Memory.answerRequests_of_healthy
    (show ({} : Memory).failing = false from rfl) requests
  have hholds : ∀ other collection content, reached.store.Holds other collection content ↔
      LastWritten other history collection content := by
    intro other collection content
    rw [hstore]
    exact Store.holds_iff_lastWritten history other collection content
  obtain ⟨hfound, hmissing⟩ := Memory.handleRequest_of_reads_document hhealthy hreads henv hid
  refine ⟨fun collection content hlast => ?_, fun hnone => ?_,
    ⟨reached.store.documents.keys, ?_, ?_, ?_⟩, fun request => ⟨?_, ?_⟩⟩
  · exact hfound collection content ((hholds name collection content).2 hlast)
  · refine hmissing fun collection content hheld => ?_
    exact hnone collection content ((hholds name collection content).1 hheld)
  · exact reached.store.documents.nodup_keys
  · exact List.length_map _
  · intro other
    simp only [reached.store.mem_keys_iff_holds, hholds]
  · intro hrefused
    rw [RpcRequest.edits, hrefused.plannedCall?]
    rfl
  · intro call hasks
    exact RpcRequest.edits_of_plannedCall? hasks.plannedCall?

def readingRequest (uri : String) : RpcRequest where
  version := "2.0"
  id := some .null
  method := "resources/read"
  params := some (.object [("uri", .string uri)])

/-- A document is read in another letter case than it was written in, and one that was not written
is not there. -/
theorem document_is_read_in_any_case :
    let reached := (answerRequests Memory.transport
      [additionRequest "Notes" "A", additionRequest "notes" "b"] {}).2
    (handleRequest Memory.transport (readingRequest "mddb://notes/a?lang=en") reached).1 =
        some (.success (some .null)
          (resourceResult "mddb://notes/a?lang=en" mimeMarkdown "Text.")) ∧
      LastWritten "notes|a|en"
        ([additionRequest "Notes" "A", additionRequest "notes" "b"].flatMap RpcRequest.edits)
        "notes" "Text." := by
  intro reached
  have hreads : (readingRequest "mddb://notes/a?lang=en").Reads "mddb://notes/a?lang=en"
      (.document ⟨"notes", "a", "en", ∅⟩) := .intro rfl rfl rfl rfl
  have hlater : ∀ edit ∈ [Edit.write "notes" ⟨"b", "en", ∅, "Text.", false⟩],
      edit.Spares "notes|a|en" (lowercase "Notes") :=
    List.forall_mem_singleton.2 (by decide : some (documentId "notes" "b" "en") ≠ _)
  have hlast : LastWritten "notes|a|en"
      ([] ++ .write "Notes" ⟨"A", "en", ∅, "Text.", false⟩ ::
        [.write "notes" ⟨"b", "en", ∅, "Text.", false⟩]) "notes" "Text." :=
    .written (by decide) hlater
  obtain ⟨hread, -⟩ := reads_see_last_write
    [additionRequest "Notes" "A", additionRequest "notes" "b"] hreads rfl rfl
  exact ⟨hread _ _ hlast, hlast⟩

end DocBridge
