import DocBridge.Proofs.CollectionDeletion
import DocBridge.Proofs.LoopbackSites

/-!
# The two wires agree

Over a channel every call comes to what the store itself would do with it, and so does every request
to an endpoint.  So it makes no difference by which of the two ways a store is reached: the replies
are the same, and so is the store that is left.  Three calls need care over a channel, for which the
store has no procedure: health is read from the statistics, a deletion is a batch of one, and the
deletion of a collection is a search and a batch with what it has found.
-/

namespace DocBridge

namespace Grpc

/-- The calls that a store behind the procedures carries out to their end: a collection can be
deleted as far as a search reaches, and one can never be exported. -/
def Backend.Covers (store : Store) : Call → Prop
  | .truncate _ => False
  | .deleteCollection request => (store.matching request.collection ∅).length ≤ 10000
  | .exportDocuments request => request.collection ≠ brokenCollection
  | _ => True

/-- A call over a channel comes to what the store itself would do with it. -/
def AnswersLike (store : Store) (call : Call) : Prop :=
  Alike (((transport Backend.wire).perform call { world := { store } }).1.map
        call.operation.joined)
      ((store.answer call).1.map call.operation.joined) ∧
    ((transport Backend.wire).perform call { world := { store } }).2.world.store =
      store.after call

namespace AnswersLike

variable {store : Store}

theorem of_run {call : Call} {outcome : call.Outcome} {backend : Backend}
    (hrun : Channel.run Backend.wire (exchange call) { world := { store } } =
      (outcome, { world := backend }))
    (houtcome : Alike (outcome.map call.operation.joined)
      ((store.answer call).1.map call.operation.joined))
    (hafter : backend.store = store.after call) : AnswersLike store call := by
  rw [AnswersLike, transport]
  simp only [hrun]
  exact ⟨houtcome, hafter⟩

/-! ## Reading -/

theorem health : AnswersLike store .health := by
  have hstats : Channel.run Backend.wire stats { world := { store } } =
      (.ok store.stats, { world := { store } }) :=
    Backend.run_ask_unchanged { store } .stats .stats (fun _ => store.stats) (fun _ => rfl) ()
  have hrun : Channel.run Backend.wire Grpc.health { world := { store } } =
      (.ok { status := "healthy", mode := "wr" }, { world := { store } }) := by
    rw [Grpc.health, Exchange.map, run_andThen, hstats]
    rfl
  exact of_run hrun (.refl _) rfl

theorem get (request : GetRequest) : AnswersLike store (.get request) := by
  have hsend := Backend.send_get { store } request
  rw [Backend.get] at hsend
  cases hfound : store.get? request with
  | some document =>
    simp only [hfound] at hsend
    have hrun := run_ask_of_reply Backend.wire .get hsend
    refine of_run hrun ?_ ?_
    · simp only [Store.answer, Memory.answer, hfound]
      exact .refl _
    · simp only [Store.after, Store.answer, Memory.answer, hfound]
      rfl
  | none =>
    simp only [hfound] at hsend
    have hrun := run_ask_of_status (α := Document) Backend.wire .get hsend
    refine of_run hrun ?_ ?_
    · simp only [Store.answer, Memory.answer, hfound]
      exact .failed _ _
    · simp only [Store.after, Store.answer, Memory.answer, hfound]
      rfl

/-- The total of a search is sent in 32 bits, which are enough for the documents of the store. -/
theorem search (hsize : store.size < 0x80000000) (request : SearchRequest) :
    AnswersLike store (.search request) := by
  have hlength : ((store.search request).length : Int) ≤ Int32.maxValue.toInt := by
    have hle := store.length_search_le request
    have hmax : Int32.maxValue.toInt = 0x7FFFFFFF := rfl
    omega
  have htotal : (Int64.ofNat (store.search request).length).toInt32.toInt64 =
      Int64.ofNat (store.search request).length := by
    rw [Int64.toInt32_ofNat', Int32.toInt64_ofNat' hlength]
  have hrun : Channel.run Backend.wire (Grpc.search request) { world := { store } } =
      (.ok {
          documents := store.search request
          total := Int64.ofNat (store.search request).length },
        { world := { store, searches := 1 } }) := by
    rw [Grpc.search, run_ask, Backend.send_search, Backend.search]
    simp only [Except.mapError, Except.map, decode_encode_searchReply, htotal]
    rfl
  exact of_run hrun (.refl _) rfl

theorem exportDocuments {request : ExportRequest}
    (h : request.collection ≠ Backend.brokenCollection) :
    AnswersLike store (.exportDocuments request) := by
  have hsend : Backend.wire.sendExport (encode request) { store } =
      (.ok { data := store.exportLines request }, { store }) := by
    rw [Backend.wire_sendExport, decode_encode, Backend.chunks, if_neg h]
  have hrun : Channel.run Backend.wire (Grpc.exportDocuments request) { world := { store } } =
      (.ok { chunks := store.exportLines request }, { world := { store } }) := by
    rw [Grpc.exportDocuments, run_exportStream, hsend]
    rfl
  exact of_run hrun (.refl _) rfl

/-! ## Deleting -/

def batchOfOne (request : DeleteRequest) : DeleteBatch :=
  ⟨request.collection, [⟨request.key, request.lang⟩]⟩

/-- A deletion of one document is sent as a batch of one. -/
theorem run_delete {request : DeleteRequest} {reply : DeleteBatchReply} {after : Store}
    (h : store.deleteBatch (batchOfOne request) = (reply, after)) :
    Channel.run Backend.wire (Grpc.delete request) { world := { store } } =
      (deletionOutcome reply, { world := { store := after } }) := by
  have hbatch := Backend.run_ask_changed { store } .deleteBatch .deleteBatch store.deleteBatch
    (fun _ => rfl) (batchOfOne request)
  rw [h] at hbatch
  rw [Grpc.delete, ← batchOfOne, run_andThen, Grpc.deleteBatch, hbatch]
  rfl

/-- A batch of one removes a document just if the deletion of it does. -/
theorem delete (request : DeleteRequest) : AnswersLike store (.delete request) := by
  cases hfound : store.contains request.collection request.key request.lang with
  | true =>
    obtain ⟨after, hremove⟩ : ∃ after,
        store.remove request.collection request.key request.lang = (true, after) :=
      ⟨_, by rw [Store.remove, hfound]⟩
    have hbatch : store.deleteBatch (batchOfOne request) =
        ({ deleted := 1, notFound := 0, failed := 0 }, after) := by
      simp [batchOfOne, Store.deleteBatch, Store.deleteEntry, hremove]
    refine of_run (run_delete hbatch) ?_ ?_
    · simp only [Store.answer, Memory.answer, Store.delete, hremove]
      exact .refl _
    · simp only [Store.after, Store.answer, Memory.answer, Store.delete, hremove]
      rfl
  | false =>
    have hremove := Store.remove_of_absent hfound
    have hbatch : store.deleteBatch (batchOfOne request) =
        ({ deleted := 0, notFound := 1, failed := 0 }, store) := by
      simp [batchOfOne, Store.deleteBatch, Store.deleteEntry, hremove]
    refine of_run (run_delete hbatch) ?_ ?_
    · simp only [Store.answer, Memory.answer, Store.delete, hremove]
      exact .failed _ _
    · simp only [Store.after, Store.answer, Memory.answer, Store.delete, hremove]
      rfl

/-- A collection that a search reaches to its end is deleted as a whole. -/
theorem deleteCollection (hstore : store.Identified) {request : DeleteCollectionRequest}
    (h : (store.matching request.collection ∅).length ≤ 10000) :
    AnswersLike store (.deleteCollection request) := by
  obtain ⟨ids, hids⟩ : ∃ ids, (store.search (scan request)).map (·.id) = ids := ⟨_, rfl⟩
  have hfound : (store.search (scan request)).Perm (store.matching request.collection ∅) :=
    Store.perm_search_limited (by decide) h
  -- The search has an order of its own, which does not matter for what the batch removes.
  have hperm : ids.Perm ((store.matching request.collection ∅).map (·.id)) :=
    hids ▸ hfound.map (·.id)
  have hpresent : store.countPresent ids = (store.matching request.collection ∅).length := by
    rw [← hids, hstore.countPresent_search, hfound.length_eq]
  have hafter : store.without ids = (store.deleteCollection request.collection).2 := by
    rw [← hstore.without_ids_matching, Store.without_congr fun id => hperm.mem_iff]
  have hmoment : store.afterAll [] = store := rfl
  have hrun := run_deleteCollection_backend hstore request [] hids hmoment
  rw [hpresent, ← Store.deleteCollection_fst] at hrun
  exact of_run hrun (.refl _) hafter

end AnswersLike

/-- A call over a channel comes to what the store itself would do with it. -/
theorem answersLike {store : Store} (hstore : store.Identified)
    (hsize : store.size < 0x80000000) {call : Call} (h : Backend.Covers store call) :
    AnswersLike store call := by
  cases call with
  | health => exact .health
  | stats =>
    have hrun := Backend.run_ask_unchanged { store } .stats .stats (fun _ => store.stats)
      (fun _ => rfl) ()
    exact .of_run hrun (.refl _) rfl
  | add request =>
    have hrun := Backend.run_ask_changed { store } .add .add store.add (fun _ => rfl) request
    exact .of_run hrun (.refl _) rfl
  | addBatch request =>
    have hrun := Backend.run_ask_changed { store } .addBatch .addBatch store.addBatch
      (fun _ => rfl) request
    exact .of_run hrun (.refl _) rfl
  | updateBatch request =>
    have hrun := Backend.run_ask_changed { store } .updateBatch .updateBatch store.updateBatch
      (fun _ => rfl) request
    exact .of_run hrun (.refl _) rfl
  | deleteBatch request =>
    have hrun := Backend.run_ask_changed { store } .deleteBatch .deleteBatch store.deleteBatch
      (fun _ => rfl) request
    exact .of_run hrun (.refl _) rfl
  | get request => exact .get request
  | search request => exact .search hsize request
  | delete request => exact .delete request
  | deleteCollection request => exact .deleteCollection hstore h
  | exportDocuments request => exact .exportDocuments h
  | backup request =>
    have hrun := Backend.run_ask_unchanged { store } .backup .backup Backend.backup
      (fun _ => rfl) request
    exact .of_run hrun (.refl _) rfl
  | restore request =>
    have hrun := Backend.run_ask_unchanged { store } .restore .restore Backend.restore
      (fun _ => rfl) request
    exact .of_run hrun (.refl _) rfl
  | truncate request => exact h.elim

end Grpc

/-- It makes no difference whether a store is reached over gRPC or over REST, whatever has happened
to it before: a call comes to the same reply over both, or to a failure over both, and it leaves the
same store.  Of an export the data counts, not the chunks that it came in. -/
theorem wires_agree (site : Rest.Site) (calls : List Call) (call : Call) :
    let store := Store.afterAll {} calls
    let grpc := (Grpc.transport Grpc.Backend.wire).perform call { world := { store } }
    let rest := (Rest.transport Rest.Backend.wire site.base).perform call { store }
    store.size < 0x80000000 → Grpc.Backend.Covers store call → site.Reaches call →
      Alike (grpc.1.map call.operation.joined) (rest.1.map call.operation.joined) ∧
        grpc.2.world.store = rest.2.store := by
  intro store grpc rest hsize hcovers hreaches
  have hstore : store.Identified := Store.Identified.empty.afterAll calls
  have hgrpc := Grpc.answersLike hstore hsize hcovers
  have hrest := Rest.perform_alike site hreaches store
  rw [Grpc.AnswersLike] at hgrpc
  -- Both are compared with the store itself, which knows nothing of wires.
  simp only [grpc, rest]
  exact ⟨hgrpc.1.trans hrest.1.symm, hgrpc.2.trans hrest.2.symm⟩

/-- A collection of one document is deleted alike over both. -/
theorem wires_agree_about_deletion :
    let site := Rest.Site.loopback 11023 (by decide)
    let note : AddRequest := {
      collection := "Notes", key := "a", lang := "en", metadata := ∅, contentMd := "text"
      saveRevision := false }
    let call : Call := .deleteCollection ⟨"notes"⟩
    let store := Store.afterAll {} [.add note]
    let grpc := (Grpc.transport Grpc.Backend.wire).perform call { world := { store } }
    let rest := (Rest.transport Rest.Backend.wire site.base).perform call { store }
    store.size = 1 ∧ Grpc.Backend.Covers store call ∧ site.Reaches call ∧
      Alike (grpc.1.map call.operation.joined) (rest.1.map call.operation.joined) ∧
      grpc.2.world.store = rest.2.store := by
  intro site note call store grpc rest
  have hsize : store.size = 1 := by decide
  have hcovers : (store.matching "notes" ∅).length ≤ 10000 := by decide
  have hagree := wires_agree site [.add note] call (hsize ▸ by decide) hcovers trivial
  simp only [grpc, rest, store]
  exact ⟨hsize, hcovers, trivial, hagree⟩

end DocBridge
