import DocBridge.Proofs.GrpcExchanges
import DocBridge.Proofs.NumberTexts

/-!
# Deleting a collection over gRPC

The deletion of a collection is a search and a batch with what was found.  Between the two other
clients may do what they like: the batch removes the documents of the identifiers that were found,
as far as they are still there, and no others.  A search has a limit, so that of a collection
beyond the limit something remains.
-/

namespace DocBridge.Grpc

/-! ## Messages -/

/-- The search in a collection that is to be deleted. -/
def scan (request : DeleteCollectionRequest) : SearchRequest :=
  { collection := request.collection, limit := scanLimit }

def batchOf (collection : String) (documents : List Document) : DeleteBatch :=
  ⟨collection, documents.map fun document => ⟨document.key, document.lang⟩⟩

def batchOutcome : Except Status Json → Except TransportError DeleteCollectionReply
  | .error status => .error (collectionFailure "delete batch" (.rpc .deleteBatch status))
  | .ok reply => .ok { deleted := (decode reply : DeleteBatchReply).deleted }

theorem perform_deleteCollection {σ : Type} (wire : Wire σ) (request : DeleteCollectionRequest)
    (channel : Channel σ) :
    (transport wire).perform (.deleteCollection request) channel =
      channel.run wire (deleteCollection request) := rfl

section Runs

variable {σ : Type} {wire : Wire σ} {request : DeleteCollectionRequest} {world after last : σ}

/-- A failed search is the failure of the deletion, and nothing else is sent. -/
theorem run_deleteCollection_of_refused {status : Status}
    (h : wire.send .search (encode (scan request)) world = (.error status, after)) :
    Channel.run wire (deleteCollection request) { world } =
      (.error (collectionFailure "search" (.rpc .search status)), { world := after }) := by
  rw [deleteCollection, run_andThen, search, run_ask, ← scan, h]
  rfl

theorem run_deleteCollection_of_nothing {answer : Json}
    (h : wire.send .search (encode (scan request)) world = (.ok answer, after))
    (hfound : (decode answer : SearchReply).documents = []) :
    Channel.run wire (deleteCollection request) { world } =
      (.ok { deleted := 0 }, { world := after }) := by
  rw [deleteCollection, run_andThen, search, run_ask, ← scan, h]
  simp [Except.mapError, Except.map, hfound, Channel.run]

/-- What the search has found is sent back to be deleted, by key and language, and the answer to
that is the outcome. -/
theorem run_deleteCollection_of_found {answer : Json} {outcome : Except Status Json}
    (h : wire.send .search (encode (scan request)) world = (.ok answer, after))
    (hfound : (decode answer : SearchReply).documents ≠ [])
    (hbatch : wire.send .deleteBatch
      (encode (batchOf request.collection (decode answer : SearchReply).documents)) after =
        (outcome, last)) :
    Channel.run wire (deleteCollection request) { world } =
      (batchOutcome outcome, { world := last }) := by
  rw [deleteCollection, run_andThen, search, run_ask, ← scan, h]
  simp only [Except.mapError, Except.map, List.isEmpty_iff, hfound, if_false]
  rw [run_andThen, deleteBatch, run_ask, ← batchOf, hbatch]
  cases outcome <;> rfl

end Runs

/-- What the deletion of a collection sends when its search is answered so: the search, and if that
has found something a batch with just that. -/
def deletionMessages (request : DeleteCollectionRequest) (answer : Except Status Json) :
    List (String × Json) :=
  (procedurePath Procedure.search.name, encode (scan request)) ::
    match answer with
    | .error _ => []
    | .ok answer =>
      let found := (decode answer : SearchReply).documents
      if found.isEmpty then []
      else [(procedurePath Procedure.deleteBatch.name, encode (batchOf request.collection found))]

/-- A deletion sends one search, and one batch at most. -/
theorem sent_of_deleteCollection {σ : Type} (wire : Wire σ) (request : DeleteCollectionRequest)
    (world : σ) :
    (Channel.run wire.recorded (deleteCollection request) { world := (world, []) }).2.world.2 =
      deletionMessages request (wire.send .search (encode (scan request)) world).1 := by
  rcases hsend : wire.send .search (encode (scan request)) world with ⟨status | answer, after⟩
  · have hsearch : wire.recorded.send .search (encode (scan request)) (world, []) =
        (.error status, after, [(procedurePath Procedure.search.name, encode (scan request))]) := by
      simp [Wire.recorded, hsend]
    rw [run_deleteCollection_of_refused hsearch]
    rfl
  have hsearch : wire.recorded.send .search (encode (scan request)) (world, []) =
      (.ok answer, after, [(procedurePath Procedure.search.name, encode (scan request))]) := by
    simp [Wire.recorded, hsend]
  by_cases hfound : (decode answer : SearchReply).documents = []
  · rw [run_deleteCollection_of_nothing hsearch hfound]
    simp [deletionMessages, hfound]
  · rw [run_deleteCollection_of_found hsearch hfound rfl]
    simp [deletionMessages, hfound]

/-! ## A store in memory -/

theorem sent_of_deleteCollection_backend (backend : Backend) (request : DeleteCollectionRequest) :
    (Channel.run Backend.wire.recorded (deleteCollection request)
        { world := (backend, []) }).2.world.2 =
      (procedurePath Procedure.search.name, encode (scan request)) ::
        (if (backend.store.search (scan request)).isEmpty then []
        else [(procedurePath Procedure.deleteBatch.name,
          encode (batchOf request.collection (backend.store.search (scan request))))]) := by
  rw [sent_of_deleteCollection, Backend.send_search, Backend.search]
  simp only [deletionMessages, decode_encode_searchReply]

/-- The entries of a batch that names what was found lead to the identifiers of it. -/
theorem map_entryId_batchOf {store : Store} (h : store.Identified)
    (request : DeleteCollectionRequest) :
    (batchOf request.collection (store.search (scan request))).documents.map
        (Store.entryId request.collection) =
      (store.search (scan request)).map (·.id) := by
  rw [batchOf, List.map_map]
  apply List.map_congr_left
  intro document hdocument
  have hid := h.documentId_of_mem_search hdocument
  exact hid

/-- Over a store in memory the deletion removes the documents that were found, as far as they are
still there when the batch arrives, and counts them. -/
theorem run_deleteCollection_backend {store : Store} (h : store.Identified)
    (request : DeleteCollectionRequest) (between : List Call) {ids : List String}
    (hids : (store.search (scan request)).map (·.id) = ids) {moment : Store}
    (hmoment : store.afterAll between = moment) :
    Channel.run Backend.wire (deleteCollection request)
        { world := { store, afterSearch := between } } =
      (.ok { deleted := Int32.ofNat (moment.countPresent ids) },
        { world := { store := moment.without ids, afterSearch := [], searches := 1 } }) := by
  have hnames := (map_entryId_batchOf h request).trans hids
  have hnodup : ids.Nodup := hids ▸ h.nodup_search (scan request)
  have hsearch := Backend.send_search { store, afterSearch := between } (scan request)
  rw [Backend.search] at hsearch
  simp only [hmoment] at hsearch
  generalize store.search (scan request) = found at hids hnames hsearch
  have hdecoded : (decode (encode ({
      documents := found
      total := Int64.ofNat found.length } : SearchReply)) : SearchReply).documents = found := by
    rw [decode_encode_searchReply]
  -- No batch is sent for nothing, and a store without no identifiers is what it was.
  by_cases hfound : found = []
  · rw [run_deleteCollection_of_nothing hsearch (hdecoded.trans hfound), ← hids, hfound,
      List.map_nil, Store.without_nil]
    rfl
  · have hdeleted : moment.deleteBatch (batchOf request.collection found) =
        ({ deleted := Int32.ofNat (moment.countPresent ids)
           notFound := Int32.ofNat (moment.countAbsent ids) }, moment.without ids) := by
      rw [← hnames] at hnodup ⊢
      exact Store.deleteBatch_eq hnodup moment
    have hbatch := Backend.send_deleteBatch { store := moment, afterSearch := [], searches := 1 }
      (batchOf request.collection found)
    simp only [hdeleted, Backend.changed] at hbatch
    rw [run_deleteCollection_of_found hsearch (by rwa [hdecoded]) (by rw [hdecoded, hbatch]),
      batchOutcome, decode_encode]

/-- The search before a deletion finds all the documents of a collection up to its limit. -/
theorem length_search_scan (store : Store) (request : DeleteCollectionRequest) :
    (store.search (scan request)).length =
      min 10000 (store.matching request.collection ∅).length :=
  store.length_search_limited request.collection (by decide)

theorem countPresent_scan_le (store moment : Store) (request : DeleteCollectionRequest) :
    moment.countPresent ((store.search (scan request)).map (·.id)) ≤ 10000 := by
  have hlength := length_search_scan store request
  calc moment.countPresent ((store.search (scan request)).map (·.id))
      ≤ ((store.search (scan request)).map (·.id)).length := List.countP_le_length
    _ ≤ 10000 := by rw [List.length_map, hlength]; exact Nat.min_le_left _ _

/-- Whatever other clients do to the store between the search and the batch, the deletion of a
collection removes just the documents whose identifiers it has found, and says how many of them were
still there.  It sends one search, and a batch only if the search was answered and has found
something; the batch names what was found, in its order. -/
theorem deleteCollection_removes_what_it_found (calls between : List Call)
    (request : DeleteCollectionRequest) :
    let store := Store.afterAll {} calls
    let found := store.search (scan request)
    let ids := found.map (·.id)
    let moment := store.afterAll between
    let deletion := (transport Backend.wire.recorded).perform (.deleteCollection request)
      { world := ({ store, afterSearch := between }, []) }
    (∀ {σ : Type} (wire : Wire σ) (world : σ),
        ((transport wire.recorded).perform (.deleteCollection request)
          { world := (world, []) }).2.world.2 =
            deletionMessages request (wire.send .search (encode (scan request)) world).1) ∧
      deletion.2.world.2 = (procedurePath Procedure.search.name, encode (scan request)) ::
        (if found.isEmpty then []
        else [(procedurePath Procedure.deleteBatch.name,
          encode (batchOf request.collection found))]) ∧
      ids.Nodup ∧
      deletion.2.world.1.store = moment.without ids ∧
      ∃ reply, deletion.1 = .ok reply ∧ reply.deleted.toInt = moment.countPresent ids := by
  intro store found ids moment deletion
  have hdeletion : deletion = Channel.run Backend.wire.recorded (deleteCollection request)
      { world := ({ store, afterSearch := between }, []) } := perform_deleteCollection _ _ _
  have hstore : store.Identified := Store.Identified.empty.afterAll calls
  obtain ⟨houtcome, hworld⟩ := run_recorded Backend.wire (deleteCollection request)
    { store, afterSearch := between } []
  rw [run_deleteCollection_backend hstore request between rfl rfl, ← hdeletion] at houtcome hworld
  refine ⟨fun wire world => sent_of_deleteCollection wire request world, ?_, ?_, ?_, ?_⟩
  · rw [hdeletion, sent_of_deleteCollection_backend]
  · exact hstore.nodup_search (scan request)
  · rw [hworld]
  · refine ⟨_, houtcome, Int32.toInt_ofNat_of_lt ?_⟩
    exact Nat.lt_of_le_of_lt (countPresent_scan_le store moment request) (by decide)

/-! ## What remains -/

/-- A deletion that nobody comes between counts what it removes, and leaves what is beyond the
limit. -/
theorem perform_deleteCollection_alone {store : Store} (h : store.Identified)
    (request : DeleteCollectionRequest) :
    ∃ after, (transport Backend.wire).perform (.deleteCollection request) { world := { store } } =
        (.ok { deleted :=
            Int32.ofNat (min 10000 (store.matching request.collection ∅).length) },
          { world := { store := after, afterSearch := [], searches := 1 } }) ∧
      (after.matching request.collection ∅).length =
        (store.matching request.collection ∅).length - 10000 := by
  obtain ⟨ids, hids⟩ : ∃ ids, (store.search (scan request)).map (·.id) = ids := ⟨_, rfl⟩
  have hlength : ids.length = min 10000 (store.matching request.collection ∅).length := by
    rw [← hids, List.length_map, length_search_scan]
  have hpresent : store.countPresent ids = ids.length := by
    rw [← hids, h.countPresent_search, List.length_map]
  have hsubset : ∀ id ∈ ids, id ∈ (store.matching request.collection ∅).map (·.id) := by
    intro id hid
    rw [← hids] at hid
    obtain ⟨document, hdocument, rfl⟩ := List.mem_map.1 hid
    have hmatching := Store.mem_matching_of_mem_search hdocument
    exact List.mem_map_of_mem hmatching
  have hnodup : ids.Nodup := hids ▸ h.nodup_search (scan request)
  have hremaining := h.length_matching_without hnodup hsubset
  have hmoment : store.afterAll [] = store := rfl
  refine ⟨store.without ids, ?_, ?_⟩
  · rw [perform_deleteCollection, run_deleteCollection_backend h request [] hids hmoment,
      hpresent, hlength]
    rfl
  · omega

/-- A search has a limit.  A deletion that nobody comes between removes as many documents as the
limit allows, says how many, and leaves the others where they are: a collection is empty afterwards
just if it was within the limit. -/
theorem deleteCollection_leaves_the_rest (calls : List Call) (request : DeleteCollectionRequest) :
    let store := Store.afterAll {} calls
    let size := (store.matching request.collection ∅).length
    let deletion := (transport Backend.wire).perform (.deleteCollection request)
      { world := { store } }
    deletion.1 = .ok { deleted := Int32.ofNat (min 10000 size) } ∧
      (deletion.2.world.store.matching request.collection ∅).length = size - 10000 := by
  intro store size deletion
  have hstore : store.Identified := Store.Identified.empty.afterAll calls
  obtain ⟨after, hperform, hremaining⟩ := perform_deleteCollection_alone hstore request
  have hdeletion : deletion = _ := hperform
  rw [hdeletion]
  exact ⟨rfl, hremaining⟩

/-! ## A collection beyond the limit -/

/-- A batch of as many documents, named by their numbers. -/
def numbered (count : Nat) : WriteBatch where
  collection := "notes"
  documents := (List.range count).map fun index => {
    key := toString index
    lang := "en"
    metadata := ∅
    contentMd := ""
    saveRevision := false }

theorem lowercase_of_digits {text : List Char}
    (h : ∀ character ∈ text, Digit.isDecimal character = true) (before : List Char) :
    Lowercase.after before text = text := by
  induction text generalizing before with
  | nil => rfl
  | cons character rest ih =>
    have hcharacter := Digit.isDecimal_iff.1 (h character List.mem_cons_self)
    have hsigma : character ≠ 'Σ' := by
      rintro rfl
      exact absurd hcharacter.2 (by decide)
    have hlower : character.toLower = character := by
      apply dif_neg
      rintro ⟨hcapital, -⟩
      have hcode : 65 ≤ character.toNat := UInt32.le_iff_toNat_le.1 hcapital
      omega
    have hascii : character.toNat < 0x80 := by omega
    have hrest := ih fun other hother => h other (List.mem_cons_of_mem _ hother)
    simp [Lowercase.after, Lowercase.ofChar, hsigma, hlower, hascii, hrest]

theorem lowercase_toString (n : Nat) : lowercase (toString n) = toString n := by
  have hdigits : ∀ character ∈ Nat.toDigits 10 n, Digit.isDecimal character = true :=
    fun character hcharacter => Json.Outline.NumberPlace.isDecimal_of_mem_toDigits hcharacter
  rw [Nat.toString_eq_ofList_toDigits, lowercase, String.toList_ofList,
    lowercase_of_digits hdigits]

theorem toString_injective {first second : Nat} (h : toString first = toString second) :
    first = second := by
  rw [Nat.toString_eq_ofList_toDigits, Nat.toString_eq_ofList_toDigits, String.ofList_inj] at h
  calc first = Nat.ofDigitChars 10 (Nat.toDigits 10 first) 0 :=
        (Nat.ofDigitChars_toDigits (by decide) (by decide)).symm
    _ = Nat.ofDigitChars 10 (Nat.toDigits 10 second) 0 := by rw [h]
    _ = second := Nat.ofDigitChars_toDigits (by decide) (by decide)

/-- As many documents as are added under different numbers stand in the collection. -/
theorem length_matching_numbered (count : Nat) :
    ((Store.afterAll {} [.addBatch (numbered count)]).matching "notes" ∅).length = count := by
  have hnodup : ((numbered count).documents.map fun entry =>
      documentId "notes" entry.key entry.lang).Nodup := by
    rw [numbered, List.map_map]
    refine List.Pairwise.map _ (fun first second hne hid => hne ?_) List.nodup_range
    have hnames : lowercase (toString first) = lowercase (toString second) := by
      simp only [Function.comp_apply, documentId, String.append_left_inj,
        String.append_right_inj] at hid
      exact hid
    rw [lowercase_toString, lowercase_toString] at hnames
    exact toString_injective hnames
  refine (Store.length_matching_addBatch hnodup (fun _ _ => rfl) _).trans ?_
  rw [numbered, List.length_map, List.length_range]
  exact Nat.zero_add count

/-- Of a collection with one document more than the limit that document remains, and the deletion
is a success. -/
theorem deleteCollection_leaves_one :
    let store := Store.afterAll {} [.addBatch (numbered 10001)]
    let deletion := (transport Backend.wire).perform (.deleteCollection ⟨"notes"⟩)
      { world := { store } }
    deletion.1 = .ok { deleted := 10000 } ∧
      (deletion.2.world.store.matching "notes" ∅).length = 1 := by
  intro store deletion
  have hstore : store.Identified := Store.Identified.empty.afterAll _
  have hsize : (store.matching "notes" ∅).length = 10001 := length_matching_numbered 10001
  obtain ⟨after, hperform, hremaining⟩ := perform_deleteCollection_alone hstore ⟨"notes"⟩
  have hdeletion : deletion = _ := hperform
  rw [hsize] at hdeletion hremaining
  rw [hdeletion]
  exact ⟨rfl, hremaining⟩

end DocBridge.Grpc
