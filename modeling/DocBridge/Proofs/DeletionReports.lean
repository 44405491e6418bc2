import DocBridge.Proofs.CollectionDeletion

/-!
# What becomes of failed deletions

The answer to a batch of deletions counts what was deleted, what was not found and what failed, and
lists errors.  Two calls are made of such a batch and have no reply of their own for a failure.  The
deletion of a document goes by the errors and by what was not found, the deletion of a collection
goes by neither: a failure that is only counted is lost on both, and one that is listed is lost on
the second.
-/

namespace DocBridge.Grpc

variable {σ : Type} {wire : Wire σ} {world after : σ}

/-- A deletion passes just if no error is listed, and something was deleted or nothing missing. -/
theorem deletionOutcome_eq_ok_iff (reply : DeleteBatchReply) :
    deletionOutcome reply = .ok () ↔
      reply.errors = [] ∧ ¬ (reply.deleted = 0 ∧ 0 < reply.notFound) := by
  unfold deletionOutcome
  split
  · rename_i reason rest herrors
    simp [herrors]
  · rename_i herrors
    simp [herrors]

theorem deletionOutcome_of_error {reply : DeleteBatchReply} {reason : String}
    {others : List String} (h : reply.errors = reason :: others) :
    deletionOutcome reply = .error (.backend .delete reason) := by
  rw [deletionOutcome, h]

/-- The batch of one for a deletion, once it is answered, decides the deletion. -/
theorem run_delete_of_answered {request : DeleteRequest} {answer : Json}
    (h : wire.send .deleteBatch
      (encode (⟨request.collection, [⟨request.key, request.lang⟩]⟩ : DeleteBatch)) world =
        (.ok answer, after)) :
    Channel.run wire (delete request) { world } =
      (deletionOutcome (decode answer), { world := after }) := by
  rw [delete, run_andThen, deleteBatch, run_ask, h]
  rfl

/-- Failures that a store only counts are lost, whatever else its answer to a batch says: the
deletion of a document looks at the listed errors and at what was not found, and the deletion of a
collection takes any answer for a success. -/
theorem counted_failures_are_lost (wire : Wire σ) (reply : DeleteBatchReply) :
    (∀ (request : DeleteRequest) (world after : σ),
      wire.send .deleteBatch
          (encode (⟨request.collection, [⟨request.key, request.lang⟩]⟩ : DeleteBatch)) world =
        (.ok (encode reply), after) →
      let outcome := ((transport wire).perform (.delete request) { world }).1
      (outcome = .ok () ↔ reply.errors = [] ∧ ¬ (reply.deleted = 0 ∧ 0 < reply.notFound)) ∧
        ∀ reason others, reply.errors = reason :: others →
          outcome = .error (.backend .delete reason)) ∧
    (∀ (request : DeleteCollectionRequest) (found : SearchReply) (world between after : σ),
      wire.send .search (encode (scan request)) world = (.ok (encode found), between) →
      found.documents ≠ [] →
      wire.send .deleteBatch (encode (batchOf request.collection found.documents)) between =
        (.ok (encode reply), after) →
      ((transport wire).perform (.deleteCollection request) { world }).1 =
        .ok { deleted := reply.deleted }) := by
  constructor
  · intro request world after hbatch outcome
    have hrun := run_delete_of_answered hbatch
    rw [decode_encode] at hrun
    have houtcome : outcome = deletionOutcome reply := congrArg Prod.fst hrun
    rw [houtcome]
    exact ⟨deletionOutcome_eq_ok_iff reply, fun _ _ => deletionOutcome_of_error⟩
  · intro request found world between after hsearch hfound hbatch
    have hdocuments : (decode (encode found) : SearchReply).documents = found.documents := by
      rw [decode_encode_searchReply]
    rw [← hdocuments] at hfound hbatch
    have hrun := run_deleteCollection_of_found hsearch hfound hbatch
    rw [batchOutcome, decode_encode] at hrun
    exact congrArg Prod.fst hrun

/-- A store that finds one document and answers every batch of deletions in the same way. -/
def Wire.deleting (reply : DeleteBatchReply) : Wire Unit where
  send procedure _ world :=
    match procedure with
    | .search => (.ok (encode ({ documents := [{ key := "a" }], total := 1 } : SearchReply)), world)
    | .deleteBatch => (.ok (encode reply), world)
    | _ => (.error .unreachable, world)
  sendExport _ world := (.error .unreachable, world)

/-- A listed error ends the deletion of a document, and not that of a collection. -/
theorem listed_error_is_lost_on_collections :
    let wire := Wire.deleting { deleted := 1, failed := 2, errors := ["locked"] }
    ((transport wire).perform (.delete ⟨"notes", "a", ""⟩) { world := () }).1 =
        .error (.backend .delete "locked") ∧
      ((transport wire).perform (.deleteCollection ⟨"notes"⟩) { world := () }).1 =
        .ok { deleted := 1 } := by
  intro wire
  obtain ⟨hdocument, hcollection⟩ :=
    counted_failures_are_lost wire { deleted := 1, failed := 2, errors := ["locked"] }
  exact ⟨(hdocument ⟨"notes", "a", ""⟩ () () rfl).2 "locked" [] rfl,
    hcollection ⟨"notes"⟩ { documents := [{ key := "a" }], total := 1 } () () () rfl
      (List.cons_ne_nil _ _) rfl⟩

/-- The store says that it could not delete anything, and both deletions are a success. -/
theorem failed_deletions_pass :
    ((transport (.deleting { failed := 1 })).perform (.delete ⟨"notes", "a", ""⟩)
        { world := () }).1 = .ok () ∧
      ((transport (.deleting { failed := 1, errors := ["locked"] })).perform
        (.deleteCollection ⟨"notes"⟩) { world := () }).1 = .ok { deleted := 0 } :=
  ⟨rfl, rfl⟩

end DocBridge.Grpc
