import DocBridge.Proofs.StoreEdits
import Mathlib.Data.List.Basic

/-!
# Identifiers of stored documents

Whatever calls a store has answered, every document in it stands under its identifier, and the
identifier is made of the names that the document carries.  So a search names documents that are
all different, and the names that it gives lead back to them: a batch that deletes what a search
has found deletes exactly the documents of the found identifiers that are still there.
-/

namespace DocBridge.Store

/-! ## Identifiers -/

/-- A store in which every document stands under its identifier, and the identifier is made of the
names of the document. -/
def Identified (store : Store) : Prop :=
  ∀ entry ∈ store.documents.entries, entry.2.document.id = entry.1 ∧
    entry.1 = entry.2.collection ++ "|" ++ lowercase entry.2.document.key ++ "|" ++
      lowercase entry.2.document.lang

theorem Identified.put {store : Store} (h : store.Identified) (collection : String)
    (entry : BatchEntry) : (store.put collection entry).2.Identified := by
  intro stored hstored
  rcases SortedMap.mem_insert hstored with rfl | hstored
  · exact ⟨rfl, rfl⟩
  · exact h stored hstored

theorem Identified.filter {store : Store} (h : store.Identified)
    (keep : String → StoredDocument → Bool) :
    Identified { store with documents := store.documents.filter keep } :=
  fun stored hstored => h stored (SortedMap.mem_filter.1 hstored).1

theorem Identified.empty : Identified {} := nofun

theorem Identified.editAll {store : Store} (h : store.Identified) (edits : List Edit) :
    (store.editAll edits).Identified :=
  editAll_induction (fun _ _ _ hstore => hstore.put _ _) (fun _ _ hstore => hstore.filter _) edits h

theorem Identified.afterAll {store : Store} (h : store.Identified) (calls : List Call) :
    (store.afterAll calls).Identified :=
  afterAll_induction (fun _ _ _ hstore => hstore.put _ _) (fun _ _ hstore => hstore.filter _)
    calls h

/-! ## What a search finds -/

/-- The documents that are searched stand in the store, in order. -/
theorem exists_sublist_of_matching (store : Store) (collection : String) (filter : Meta) :
    ∃ entries : List (String × StoredDocument), entries.Sublist store.documents.entries ∧
      store.matching collection filter = entries.map (·.2.document) ∧
      ∀ entry ∈ entries, entry.2.collection = lowercase collection := by
  refine ⟨store.documents.entries.filter fun entry => entry.2.collection == lowercase collection &&
    passes filter entry.2.document.metadata, List.filter_sublist, ?_, ?_⟩
  · rw [matching, SortedMap.values, List.filter_map, List.map_map]
    rfl
  · intro entry hentry
    have hkept := (List.mem_filter.1 hentry).2
    rw [Bool.and_eq_true] at hkept
    exact eq_of_beq hkept.1

/-- A search orders what it searches and takes a part of it. -/
theorem exists_perm_of_search (store : Store) (request : SearchRequest) :
    ∃ ordered, ordered.Perm (store.matching request.collection request.filterMeta) ∧
      (store.search request).Sublist ordered := by
  let sorted := (store.matching request.collection request.filterMeta).mergeSort
    (listedBefore request.sort)
  have hsorted : sorted.Perm (store.matching request.collection request.filterMeta) :=
    List.mergeSort_perm _ _
  refine ⟨if request.sort ≠ "" ∧ !request.asc then sorted.reverse else sorted, ?_, ?_⟩
  · split
    · exact (List.reverse_perm sorted).trans hsorted
    · exact hsorted
  · unfold search
    simp only
    split
    · exact (List.take_sublist _ _).trans (List.drop_sublist _ _)
    · exact List.drop_sublist _ _

theorem mem_matching_of_mem_search {store : Store} {request : SearchRequest}
    {document : Document} (h : document ∈ store.search request) :
    document ∈ store.matching request.collection request.filterMeta := by
  obtain ⟨ordered, hperm, hsublist⟩ := exists_perm_of_search store request
  exact hperm.subset (hsublist.subset h)

/-- A document that a search finds stands in the store in the collection that was searched. -/
theorem exists_entry_of_mem_search {store : Store} {request : SearchRequest} {document : Document}
    (h : document ∈ store.search request) :
    ∃ entry ∈ store.documents.entries, entry.2.document = document ∧
      entry.2.collection = lowercase request.collection := by
  obtain ⟨entries, hentries, hmatching, hcollection⟩ :=
    exists_sublist_of_matching store request.collection request.filterMeta
  have hmem : document ∈ entries.map (·.2.document) := hmatching ▸ mem_matching_of_mem_search h
  obtain ⟨entry, hentry, rfl⟩ := List.mem_map.1 hmem
  exact ⟨entry, hentries.subset hentry, rfl, hcollection entry hentry⟩

/-- The names of a document that a search finds lead to its identifier. -/
theorem Identified.documentId_of_mem_search {store : Store} (h : store.Identified)
    {request : SearchRequest} {document : Document} (hfound : document ∈ store.search request) :
    documentId request.collection document.key document.lang = document.id := by
  obtain ⟨entry, hentry, rfl, hcollection⟩ := exists_entry_of_mem_search hfound
  obtain ⟨hid, hnames⟩ := h entry hentry
  rw [hid, hnames, hcollection, documentId]

/-- No two documents that a search finds are of one identifier. -/
theorem Identified.nodup_search {store : Store} (h : store.Identified) (request : SearchRequest) :
    ((store.search request).map (·.id)).Nodup := by
  obtain ⟨ordered, hperm, hsublist⟩ := exists_perm_of_search store request
  obtain ⟨entries, hentries, hmatching, -⟩ :=
    exists_sublist_of_matching store request.collection request.filterMeta
  have hids : (store.matching request.collection request.filterMeta).map (·.id) =
      entries.map Prod.fst := by
    rw [hmatching, List.map_map]
    exact List.map_congr_left fun entry hentry => (h entry (hentries.subset hentry)).1
  have hnodup : (entries.map Prod.fst).Nodup :=
    store.documents.nodup_keys.sublist (hentries.map Prod.fst)
  rw [← hids] at hnodup
  exact ((hperm.map (·.id)).nodup_iff.2 hnodup).sublist (hsublist.map (·.id))

theorem length_search_le (store : Store) (request : SearchRequest) :
    (store.search request).length ≤ store.size := by
  obtain ⟨ordered, hperm, hsublist⟩ := exists_perm_of_search store request
  obtain ⟨entries, hentries, hmatching, -⟩ :=
    exists_sublist_of_matching store request.collection request.filterMeta
  calc (store.search request).length
      ≤ ordered.length := hsublist.length_le
    _ = (store.matching request.collection request.filterMeta).length := hperm.length_eq
    _ = entries.length := by rw [hmatching, List.length_map]
    _ ≤ store.documents.entries.length := hentries.length_le

/-! ## Deletions -/

def without (store : Store) (ids : List String) : Store :=
  { store with documents := store.documents.filter fun id _ => !ids.contains id }

def countPresent (store : Store) (ids : List String) : Nat :=
  ids.countP fun id => (store.documents.get? id).isSome

def countAbsent (store : Store) (ids : List String) : Nat :=
  ids.countP fun id => (store.documents.get? id).isNone

def entryId (collection : String) (entry : DocumentRef) : String :=
  documentId collection entry.key entry.lang

/-- Without identifiers that have no document a store is as it was. -/
theorem without_of_absent {store : Store} {ids : List String}
    (h : ∀ id ∈ ids, store.documents.get? id = none) : store.without ids = store := by
  have hdocuments : store.documents.filter (fun id _ => !ids.contains id) = store.documents := by
    apply SortedMap.ext_entries
    apply List.filter_eq_self.2
    intro entry hentry
    have hfound := SortedMap.get?_eq_some_iff.2 hentry
    have habsent : entry.1 ∉ ids := fun hid => by
      rw [h entry.1 hid] at hfound
      cases hfound
    simpa using habsent
  rw [without, hdocuments]

theorem without_nil (store : Store) : store.without [] = store :=
  without_of_absent nofun

theorem remove_eq (store : Store) (collection key lang : String) :
    store.remove collection key lang =
      (store.contains collection key lang, store.without [documentId collection key lang]) := by
  have hdocuments : store.documents.erase (documentId collection key lang) =
      store.documents.filter fun id _ => !List.contains [documentId collection key lang] id :=
    SortedMap.ext_entries (List.filter_congr fun entry _ => by
      simp only [List.contains_cons, List.contains_nil, Bool.or_false]
      rfl)
  rw [remove, hdocuments]
  rfl

theorem without_without (store : Store) (first second : List String) :
    (store.without first).without second = store.without (first ++ second) := by
  have hdocuments : ((store.documents.filter fun id _ => !first.contains id).filter
      fun id _ => !second.contains id) =
      store.documents.filter fun id _ => !(first ++ second).contains id := by
    rw [SortedMap.filter_filter]
    refine SortedMap.filter_congr fun entry _ => ?_
    rw [List.contains_append, Bool.not_or, Bool.and_comm]
  simp only [without, hdocuments]

/-- Other documents are found as before. -/
theorem get?_without {store : Store} {ids : List String} {id : String} (h : id ∉ ids) :
    (store.without ids).documents.get? id = store.documents.get? id := by
  have hkept : (!ids.contains id) = true := by simpa using h
  rw [without, SortedMap.get?_filter_keys, if_pos hkept]

/-- One entry of a batch removes its document and is counted. -/
theorem deleteEntry_eq (collection : String) (reply : DeleteBatchReply) (store : Store)
    (entry : DocumentRef) :
    deleteEntry collection (reply, store) entry =
      ({ reply with
          deleted := reply.deleted + Int32.ofNat (store.countPresent [entryId collection entry])
          notFound := reply.notFound + Int32.ofNat (store.countAbsent [entryId collection entry]) },
        store.without [entryId collection entry]) := by
  rw [deleteEntry, remove_eq, ← entryId]
  cases hfound : store.documents.get? (entryId collection entry) with
  | none =>
    have hcontains : store.contains collection entry.key entry.lang = false :=
      congrArg Option.isSome hfound
    simp [hcontains, countPresent, countAbsent, hfound]
  | some stored =>
    have hcontains : store.contains collection entry.key entry.lang = true :=
      congrArg Option.isSome hfound
    simp [hcontains, countPresent, countAbsent, hfound]

/-- A batch of different identifiers removes just their documents, and counts those that are there
and those that are not. -/
theorem foldl_deleteEntry (collection : String) {entries : List DocumentRef}
    (h : (entries.map (entryId collection)).Nodup) (reply : DeleteBatchReply) (store : Store) :
    entries.foldl (deleteEntry collection) (reply, store) =
      ({ reply with
          deleted := reply.deleted +
            Int32.ofNat (store.countPresent (entries.map (entryId collection)))
          notFound := reply.notFound +
            Int32.ofNat (store.countAbsent (entries.map (entryId collection))) },
        store.without (entries.map (entryId collection))) := by
  induction entries generalizing reply store with
  | nil =>
    rw [List.map_nil, without_nil]
    simp [countPresent, countAbsent]
  | cons entry rest ih =>
    obtain ⟨hentry, hrest⟩ := List.nodup_cons.1 h
    let ids := rest.map (entryId collection)
    let between := store.without [entryId collection entry]
    -- The identifiers differ, so what the first entry removes is not counted for the others.
    have hother : ∀ id ∈ ids, between.documents.get? id = store.documents.get? id := by
      intro id hid
      apply get?_without
      rw [List.mem_singleton]
      rintro rfl
      exact hentry hid
    have hpresent : between.countPresent ids = store.countPresent ids :=
      List.countP_congr fun id hid => by rw [hother id hid]
    have habsent : between.countAbsent ids = store.countAbsent ids :=
      List.countP_congr fun id hid => by rw [hother id hid]
    have hcons : (entry :: rest).map (entryId collection) = [entryId collection entry] ++ ids := rfl
    have hpresents : store.countPresent ([entryId collection entry] ++ ids) =
        store.countPresent [entryId collection entry] + store.countPresent ids :=
      List.countP_append
    have habsents : store.countAbsent ([entryId collection entry] ++ ids) =
        store.countAbsent [entryId collection entry] + store.countAbsent ids :=
      List.countP_append
    rw [List.foldl_cons, deleteEntry_eq, ih hrest, hcons, hpresents, habsents]
    change (_, between.without ids) = _
    rw [hpresent, habsent, without_without, Int32.ofNat_add, Int32.ofNat_add, Int32.add_assoc,
      Int32.add_assoc]

/-- What a batch of different identifiers is answered, and what it leaves. -/
theorem deleteBatch_eq {collection : String} {entries : List DocumentRef}
    (h : (entries.map (entryId collection)).Nodup) (store : Store) :
    store.deleteBatch ⟨collection, entries⟩ =
      ({ deleted := Int32.ofNat (store.countPresent (entries.map (entryId collection)))
         notFound := Int32.ofNat (store.countAbsent (entries.map (entryId collection))) },
        store.without (entries.map (entryId collection))) := by
  rw [deleteBatch, foldl_deleteEntry collection h]
  simp

/-! ## Whole collections -/

/-- A search with a limit and nothing else lists the documents of a collection by their keys up to
the limit. -/
theorem search_limited (store : Store) (collection : String) {limit : Int32}
    (h : 0 < limit.toInt) :
    store.search { collection := collection, limit := limit } =
      ((store.matching collection ∅).mergeSort (listedBefore "")).take limit.toInt.toNat := by
  simp [search, h]

theorem length_search_limited (store : Store) (collection : String) {limit : Int32}
    (h : 0 < limit.toInt) :
    (store.search { collection := collection, limit := limit }).length =
      min limit.toInt.toNat (store.matching collection ∅).length := by
  rw [search_limited store collection h, List.length_take, List.length_mergeSort]

/-- A collection within the limit is listed as a whole. -/
theorem perm_search_limited {store : Store} {collection : String} {limit : Int32}
    (hlimit : 0 < limit.toInt)
    (h : (store.matching collection ∅).length ≤ limit.toInt.toNat) :
    (store.search { collection := collection, limit := limit }).Perm
      (store.matching collection ∅) := by
  rw [search_limited store collection hlimit, List.take_of_length_le]
  · exact List.mergeSort_perm _ _
  · rwa [List.length_mergeSort]

theorem matching_empty (store : Store) (collection : String) :
    store.matching collection ∅ =
      (store.documents.entries.filter fun entry =>
        entry.2.collection == lowercase collection).map (·.2.document) := by
  rw [matching, SortedMap.values, List.filter_map, List.map_map]
  refine congrArg (List.map _) (List.filter_congr fun entry _ => ?_)
  exact Bool.and_true _

/-- The identifiers of the documents of a collection. -/
theorem Identified.ids_matching {store : Store} (h : store.Identified) (collection : String) :
    (store.matching collection ∅).map (·.id) =
      (store.documents.entries.filter fun entry =>
        entry.2.collection == lowercase collection).map Prod.fst := by
  rw [matching_empty, List.map_map]
  apply List.map_congr_left
  intro entry hentry
  exact (h entry (List.mem_filter.1 hentry).1).1

theorem Identified.mem_ids_matching_iff {store : Store} (h : store.Identified)
    (collection : String) {entry : String × StoredDocument}
    (hentry : entry ∈ store.documents.entries) :
    entry.1 ∈ (store.matching collection ∅).map (·.id) ↔
      entry.2.collection = lowercase collection := by
  rw [h.ids_matching, List.mem_map]
  constructor
  · rintro ⟨other, hother, hid⟩
    obtain ⟨hmem, hcollection⟩ := List.mem_filter.1 hother
    have hsame : other.2 = entry.2 := by
      have hfirst := SortedMap.get?_eq_some_iff.2 hmem
      have hsecond := SortedMap.get?_eq_some_iff.2 hentry
      rw [hid, hsecond] at hfirst
      exact (Option.some.inj hfirst).symm
    rw [← hsame]
    exact eq_of_beq hcollection
  · intro hcollection
    exact ⟨entry, List.mem_filter.2 ⟨hentry, beq_iff_eq.2 hcollection⟩, rfl⟩

/-- A store without any document of a collection. -/
theorem Identified.without_ids_matching {store : Store} (h : store.Identified)
    (collection : String) :
    store.without ((store.matching collection ∅).map (·.id)) =
      (store.deleteCollection collection).2 := by
  have hdocuments : (store.documents.filter fun id _ =>
      !((store.matching collection ∅).map (·.id)).contains id) =
      store.documents.filter fun _ stored => stored.collection != lowercase collection := by
    apply SortedMap.filter_congr
    intro entry hentry
    have hiff := h.mem_ids_matching_iff collection hentry
    apply congrArg (!·)
    rw [Bool.eq_iff_iff, List.contains_iff_mem, beq_iff_eq, hiff]
  simp only [without, deleteCollection, hdocuments]

theorem deleteCollection_fst (store : Store) (collection : String) :
    (store.deleteCollection collection).1 =
      Int32.ofNat (store.matching collection ∅).length := by
  have hsplit := List.length_eq_length_filter_add
    (l := store.documents.entries) fun entry => entry.2.collection == lowercase collection
  have hkept : (store.documents.filter fun _ stored =>
      stored.collection != lowercase collection).size =
      (store.documents.entries.filter fun entry =>
        !(entry.2.collection == lowercase collection)).length := rfl
  rw [deleteCollection, matching_empty, List.length_map, hkept, SortedMap.size, hsplit,
    Nat.add_sub_cancel_right]

theorem without_congr {store : Store} {first second : List String}
    (h : ∀ id, id ∈ first ↔ id ∈ second) : store.without first = store.without second := by
  have hdocuments : (store.documents.filter fun id _ => !first.contains id) =
      store.documents.filter fun id _ => !second.contains id := by
    apply SortedMap.filter_congr
    intro entry _
    apply congrArg (!·)
    rw [Bool.eq_iff_iff, List.contains_iff_mem, List.contains_iff_mem, h]
  rw [without, hdocuments, without]

/-- Identifiers that all have a document are all counted. -/
theorem countPresent_of_forall {store : Store} {ids : List String}
    (h : ∀ id ∈ ids, (store.documents.get? id).isSome) : store.countPresent ids = ids.length :=
  List.countP_eq_length.2 h

/-- What remains of a collection without some of its documents. -/
theorem Identified.length_matching_without {store : Store} (h : store.Identified)
    {collection : String} {ids : List String} (hnodup : ids.Nodup)
    (hids : ∀ id ∈ ids, id ∈ (store.matching collection ∅).map (·.id)) :
    ((store.without ids).matching collection ∅).length =
      (store.matching collection ∅).length - ids.length := by
  let entries := store.documents.entries.filter fun entry =>
    entry.2.collection == lowercase collection
  have hwithout : (store.without ids).matching collection ∅ =
      (entries.filter fun entry => !ids.contains entry.1).map (·.2.document) := by
    rw [matching_empty, List.filter_filter]
    simp only [Bool.and_comm]
    rw [← List.filter_filter]
    rfl
  have hkeys : (entries.map Prod.fst).Nodup :=
    store.documents.nodup_keys.sublist (List.filter_sublist.map Prod.fst)
  have hperm : ((entries.map Prod.fst).filter ids.contains).Perm ids := by
    rw [List.perm_ext_iff_of_nodup (hkeys.sublist List.filter_sublist) hnodup]
    intro id
    rw [List.mem_filter, List.contains_iff_mem, and_iff_right_iff_imp]
    intro hid
    exact h.ids_matching collection ▸ hids id hid
  have hremoved : (entries.filter fun entry => ids.contains entry.1).length = ids.length := by
    rw [← hperm.length_eq, List.filter_map, List.length_map]
    rfl
  have hsplit := List.length_eq_length_filter_add (l := entries) fun entry =>
    ids.contains entry.1
  have hwhole : (store.matching collection ∅).length = entries.length := by
    rw [matching_empty, List.length_map]
  rw [hwithout, hwhole, List.length_map]
  omega

theorem Identified.isSome_of_mem_search {store : Store} (h : store.Identified)
    {request : SearchRequest} {id : String} (hid : id ∈ (store.search request).map (·.id)) :
    (store.documents.get? id).isSome := by
  obtain ⟨document, hdocument, rfl⟩ := List.mem_map.1 hid
  obtain ⟨entry, hentry, rfl, -⟩ := exists_entry_of_mem_search hdocument
  rw [(h entry hentry).1, SortedMap.get?_eq_some_iff.2 hentry]
  rfl

/-- All that a search finds is there. -/
theorem Identified.countPresent_search {store : Store} (h : store.Identified)
    (request : SearchRequest) :
    store.countPresent ((store.search request).map (·.id)) = (store.search request).length := by
  rw [countPresent_of_forall, List.length_map]
  intro id hid
  exact h.isSome_of_mem_search hid

/-! ## New documents -/

/-- A document of a new identifier is one more of its collection. -/
theorem length_matching_put {store : Store} {collection : String} {entry : BatchEntry}
    (h : store.contains collection entry.key entry.lang = false) :
    ((store.put collection entry).2.matching collection ∅).length =
      (store.matching collection ∅).length + 1 := by
  have hnew : ∀ stored ∈ store.documents.entries,
      stored.1 ≠ documentId collection entry.key entry.lang := by
    rintro stored hstored hid
    have hfound := SortedMap.get?_eq_some_iff.2 hstored
    rw [hid] at hfound
    rw [contains, hfound] at h
    cases h
  have hperm := SortedMap.perm_insertEntry hnew
    ⟨lowercase collection, (store.put collection entry).1⟩
  have hlength := (hperm.filter fun stored =>
    stored.2.collection == lowercase collection).length_eq
  rw [List.filter_cons_of_pos (by simp), List.length_cons] at hlength
  rw [matching_empty, matching_empty, List.length_map, List.length_map, ← hlength]
  rfl

theorem contains_put_of_ne {store : Store} {collection key lang : String} {entry : BatchEntry}
    (h : documentId collection key lang ≠ documentId collection entry.key entry.lang) :
    (store.put collection entry).2.contains collection key lang =
      store.contains collection key lang := by
  rw [contains, contains, put, SortedMap.get?_insert, if_neg h]

/-- A batch of different new identifiers is as many more documents of its collection. -/
theorem length_matching_addBatch {store : Store} {collection : String}
    {entries : List BatchEntry}
    (hnodup : (entries.map fun entry => documentId collection entry.key entry.lang).Nodup)
    (hnew : ∀ entry ∈ entries, store.contains collection entry.key entry.lang = false)
    (reply : AddBatchReply) :
    ((entries.foldl (addEntry collection) (reply, store)).2.matching collection ∅).length =
      (store.matching collection ∅).length + entries.length := by
  induction entries generalizing reply store with
  | nil => rfl
  | cons entry rest ih =>
    obtain ⟨hentry, hrest⟩ := List.nodup_cons.1 hnodup
    have hcontains := hnew entry List.mem_cons_self
    have hothers : ∀ other ∈ rest,
        (store.put collection entry).2.contains collection other.key other.lang = false := by
      intro other hother
      rw [contains_put_of_ne]
      · exact hnew other (List.mem_cons_of_mem entry hother)
      · intro hid
        exact hentry (List.mem_map.2 ⟨other, hother, hid⟩)
    rw [List.foldl_cons, addEntry]
    simp only [hcontains, Bool.false_eq_true, if_false]
    rw [ih hrest hothers, length_matching_put hcontains, List.length_cons]
    omega

end DocBridge.Store
