import DocBridge.Proofs.RequestEdits

/-!
# Collections are apart

The parts of an identifier stand between bars, and a bar in one of the parts is not told from one
between them.  So two documents of different collections can have one identifier, but only if the
name of one collection goes on behind a bar where that of the other ends.  But for that, and for
the very identifiers that a call names, whatever a call does in one collection leaves the documents
of all others as they are.
-/

namespace DocBridge

/-! ## Identifiers -/

/-- One name is the other one with a bar behind it, and whatever follows. -/
def MeetAtBar (first second : String) : Prop :=
  ∃ rest, second = first ++ "|" ++ rest ∨ first = second ++ "|" ++ rest

/-- What stands before a mark is the same on both sides, or goes on behind the mark on one. -/
theorem append_cons_eq_append_cons {α : Type} {mark : α} {first second rest others : List α}
    (h : first ++ mark :: rest = second ++ mark :: others) :
    first = second ∨ (∃ more, second = first ++ mark :: more) ∨
      ∃ more, first = second ++ mark :: more := by
  rcases List.append_eq_append_iff.1 h with ⟨between, rfl, hrest⟩ | ⟨between, rfl, hrest⟩
  · cases between with
    | nil => exact .inl (List.append_nil first).symm
    | cons head more =>
      obtain ⟨rfl, -⟩ := List.cons.inj hrest
      exact .inr (.inl ⟨more, rfl⟩)
  · cases between with
    | nil => exact .inl (List.append_nil second)
    | cons head more =>
      obtain ⟨rfl, -⟩ := List.cons.inj hrest
      exact .inr (.inr ⟨more, rfl⟩)

theorem toList_behind_bar (collection rest : String) :
    (collection ++ "|" ++ rest).toList = collection.toList ++ '|' :: rest.toList := by
  rw [String.toList_append, String.toList_append, List.append_assoc]
  rfl

/-- Texts that go on behind a bar are the same only if the names before it are, or meet at a bar. -/
theorem meetAtBar_of_eq {first second rest others : String}
    (h : first ++ "|" ++ rest = second ++ "|" ++ others) :
    first = second ∨ MeetAtBar first second := by
  have hlists := congrArg String.toList h
  rw [toList_behind_bar, toList_behind_bar] at hlists
  rcases append_cons_eq_append_cons hlists with hsame | ⟨more, hmore⟩ | ⟨more, hmore⟩
  · exact .inl (String.toList_inj.1 hsame)
  · refine .inr ⟨String.ofList more, .inl (String.toList_inj.1 ?_)⟩
    rw [hmore, toList_behind_bar, String.toList_ofList]
  · refine .inr ⟨String.ofList more, .inr (String.toList_inj.1 ?_)⟩
    rw [hmore, toList_behind_bar, String.toList_ofList]

theorem documentId_behind_bar (collection key lang : String) :
    documentId collection key lang =
      lowercase collection ++ "|" ++ (lowercase key ++ "|" ++ lowercase lang) := by
  simp only [documentId, String.append_assoc]

/-- Documents of two collections share an identifier only if the names of these meet at a bar. -/
theorem meetAtBar_of_documentId_eq {collection key lang collection' key' lang' : String}
    (h : documentId collection key lang = documentId collection' key' lang')
    (hne : lowercase collection ≠ lowercase collection') :
    MeetAtBar (lowercase collection) (lowercase collection') := by
  rw [documentId_behind_bar, documentId_behind_bar] at h
  generalize lowercase collection = first, lowercase collection' = second at h hne ⊢
  exact (meetAtBar_of_eq h).resolve_left hne

/-! ## Calls -/

/-- The collection in which a call writes or removes, if it does. -/
def Call.collection? : Call → Option String
  | .add request => some request.collection
  | .addBatch batch | .updateBatch batch => some batch.collection
  | .deleteBatch batch => some batch.collection
  | .delete request => some request.collection
  | .deleteCollection request => some request.collection
  | _ => none

def Call.ids (call : Call) : List String := call.edits.filterMap Edit.id?

theorem Call.collection_of_mem_edits {call : Call} {collection : String}
    (h : call.collection? = some collection) {edit : Edit} (hedit : edit ∈ call.edits) :
    edit.collection = collection := by
  cases call with
  | add request | delete request | deleteCollection request =>
    obtain rfl := Option.some.inj h
    rw [List.mem_singleton.1 hedit]
    rfl
  | addBatch batch | updateBatch batch | deleteBatch batch =>
    obtain rfl := Option.some.inj h
    obtain ⟨entry, -, rfl⟩ := List.mem_map.1 hedit
    rfl
  | _ => cases h

/-- An identifier that an edit is about begins with the collection of the edit. -/
theorem Edit.exists_of_id? {edit : Edit} {id : String} (h : edit.id? = some id) :
    ∃ rest, id = lowercase edit.collection ++ "|" ++ rest := by
  cases edit with
  | write collection entry | update collection entry | remove collection entry =>
    exact ⟨_, (Option.some.inj h).symm.trans (documentId_behind_bar _ _ _)⟩
  | clear collection => cases h

namespace Store

theorem Identified.exists_behind_bar {store : Store} (h : store.Identified) {id : String}
    {stored : StoredDocument} (hstored : store.documents.get? id = some stored) :
    ∃ rest, id = stored.collection ++ "|" ++ rest := by
  have hnames := (h _ (SortedMap.get?_eq_some_iff.1 hstored)).2
  exact ⟨_, hnames.trans (by rw [String.append_assoc, String.append_assoc])⟩

/-- A call does not name the document of another collection, unless the two collections meet at
a bar. -/
theorem Identified.not_mem_ids {store : Store} (h : store.Identified) {id : String}
    {stored : StoredDocument} (hstored : store.documents.get? id = some stored) {call : Call}
    {collection : String} (hcollection : call.collection? = some collection)
    (hother : stored.collection ≠ lowercase collection)
    (hbar : ¬ MeetAtBar stored.collection (lowercase collection)) : id ∉ call.ids := by
  intro hid
  obtain ⟨edit, hedit, hedit'⟩ := List.mem_filterMap.1 hid
  obtain ⟨rest, hrest⟩ := Edit.exists_of_id? hedit'
  rw [Call.collection_of_mem_edits hcollection hedit] at hrest
  obtain ⟨rest', hrest'⟩ := h.exists_behind_bar hstored
  generalize lowercase collection = name at hrest hother hbar
  exact hbar ((meetAtBar_of_eq (hrest'.symm.trans hrest)).resolve_left hother)

/-- A call leaves the documents of other collections that it does not name. -/
theorem get?_editAll_edits {store : Store} {id : String} {stored : StoredDocument}
    (hstored : store.documents.get? id = some stored) {call : Call} {collection : String}
    (hcollection : call.collection? = some collection)
    (hother : stored.collection ≠ lowercase collection) (hid : id ∉ call.ids) :
    (store.editAll call.edits).documents.get? id = some stored := by
  refine get?_editAll_of_spares hstored fun edit hedit => Edit.spares_of_ne ?_ ?_
  · exact fun hedit' => hid (List.mem_filterMap.2 ⟨edit, hedit, hedit'⟩)
  · rwa [Call.collection_of_mem_edits hcollection hedit]

end Store

/-- Whatever requests have been handled before, a request that writes or removes in one collection
leaves every document of another collection as it is, unless it names the very identifier of that
document; and it can do so, and two collections can share an identifier at all, only if their names
in lowercase meet at a bar. -/
theorem collections_are_apart_but_at_bars {start : Memory} (hstart : start.store = {})
    (requests : List RpcRequest) {request : RpcRequest} {call : Call} {collection : String}
    (hasks : request.Asks call) (hcollection : call.collection? = some collection) :
    let reached := (answerRequests Memory.transport requests start).2
    let left := (handleRequest Memory.transport request reached).2
    (∀ id stored, reached.store.documents.get? id = some stored →
      stored.collection ≠ lowercase collection →
      id ∉ call.ids ∨ ¬ MeetAtBar stored.collection (lowercase collection) →
      left.store.documents.get? id = some stored) ∧
    ∀ first key lang second key' lang',
      documentId first key lang = documentId second key' lang' →
      lowercase first ≠ lowercase second → MeetAtBar (lowercase first) (lowercase second) := by
  intro reached left
  refine ⟨fun id stored hstored hother hfree => ?_, fun _ _ _ _ _ _ => meetAtBar_of_documentId_eq⟩
  have hidentified : reached.store.Identified :=
    Memory.identified_answerRequests (hstart ▸ Store.Identified.empty) requests
  have hid : id ∉ call.ids :=
    hfree.elim (fun hnot => hnot)
      fun hbar => hidentified.not_mem_ids hstored hcollection hother hbar
  have hleft := reached.store_handleRequest request
  rw [RpcRequest.edits_of_plannedCall? hasks.plannedCall?] at hleft
  change left.store = _ at hleft
  rw [hleft]
  split
  · exact hstored
  · exact Store.get?_editAll_edits hstored hcollection hother hid

/-- A document behind a bar is safe from a document of another identifier before the bar. -/
theorem addition_before_bar_keeps_document :
    let reached := (answerRequests Memory.transport [additionRequest "a|b" "c"] {}).2
    let left := (handleRequest Memory.transport (additionRequest "a" "d") reached).2
    let stored : StoredDocument := ⟨"a|b", {
      id := "a|b|c|en", key := "c", lang := "en", contentMd := "Text.", addedAt := 1,
      updatedAt := 1 }⟩
    reached.store.documents.get? "a|b|c|en" = some stored ∧
      left.store.documents.get? "a|b|c|en" = some stored ∧
      ∃ rest, lowercase "a|b" = lowercase "a" ++ "|" ++ rest := by
  intro reached left stored
  have hasks : (additionRequest "a" "d").Asks (.add ⟨"a", "d", "en", ∅, "Text.", false⟩) :=
    .tool rfl rfl rfl (.members rfl) rfl (.addDocument _)
  obtain ⟨hkept, _⟩ := collections_are_apart_but_at_bars
    (show ({} : Memory).store = {} from rfl) [additionRequest "a|b" "c"] hasks rfl
  have hstored : reached.store.documents.get? "a|b|c|en" = some stored := by decide
  exact ⟨hstored, hkept _ _ hstored (by decide) (.inl (by decide)), "b", by decide⟩

/-- Two documents of different collections have one identifier, and the second takes the place of
the first. -/
theorem bar_makes_collections_meet :
    documentId "a|b" "c" "en" = documentId "a" "b|c" "en" ∧ lowercase "a|b" ≠ lowercase "a" ∧
      let first := (handleRequest Memory.transport (additionRequest "a|b" "c") {}).2
      let second := (handleRequest Memory.transport (additionRequest "a" "b|c") first).2
      (first.store.documents.get? "a|b|c|en").map (·.collection) = some "a|b" ∧
        second.store.documents.values.map (·.collection) = ["a"] := by
  decide

end DocBridge
