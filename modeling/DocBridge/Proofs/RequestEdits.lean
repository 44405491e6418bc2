import DocBridge.Proofs.LineLocality
import DocBridge.Proofs.StoreIdentity

/-!
# What requests change in a store

A request edits a store as the call does that it makes, or not at all.  Over a transport in memory
that works, requests come to their edits one after the other; over one that fails they come to
nothing.
-/

namespace DocBridge

/-- The edits of a request: those of the call that it makes, or none. -/
def RpcRequest.edits (request : RpcRequest) : List Edit :=
  (request.plannedCall?.map Call.edits).getD []

theorem RpcRequest.edits_of_plannedCall? {request : RpcRequest} {call : Call}
    (h : request.plannedCall? = some call) : request.edits = call.edits := by
  rw [edits, h]
  rfl

namespace Memory

/-- Handling a request edits a store that works as its call does, and leaves one that fails. -/
theorem store_handleRequest (memory : Memory) (request : RpcRequest) :
    (handleRequest Memory.transport request memory).2.store =
      if memory.failing then memory.store else memory.store.editAll request.edits := by
  rw [handleRequest_world, RpcRequest.edits]
  cases request.plannedCall? with
  | none => exact (ite_self _).symm
  | some call =>
    cases hfailing : memory.failing with
    | true => exact (memory.perform_of_failing hfailing call).2
    | false =>
      exact (memory.perform_of_healthy hfailing call).2.trans (memory.store.after_eq_editAll call)

theorem failing_handleRequest (memory : Memory) (request : RpcRequest) :
    (handleRequest Memory.transport request memory).2.failing = memory.failing := by
  rw [handleRequest_world]
  cases request.plannedCall? with
  | none => rfl
  | some call => exact memory.failing_perform call

/-- Requests edit the store behind a transport that works, one after the other. -/
theorem answerRequests_of_healthy {memory : Memory} (h : memory.failing = false)
    (requests : List RpcRequest) :
    (answerRequests Memory.transport requests memory).2.failing = false ∧
      (answerRequests Memory.transport requests memory).2.store =
        memory.store.editAll (requests.flatMap RpcRequest.edits) := by
  induction requests generalizing memory with
  | nil => exact ⟨h, rfl⟩
  | cons request rest ih =>
    obtain ⟨hrest, hstore⟩ := ih ((memory.failing_handleRequest request).trans h)
    refine ⟨hrest, ?_⟩
    calc
      (answerRequests Memory.transport (request :: rest) memory).2.store =
          (handleRequest Memory.transport request memory).2.store.editAll
            (rest.flatMap RpcRequest.edits) := hstore
      _ = memory.store.editAll ((request :: rest).flatMap RpcRequest.edits) := by
          rw [store_handleRequest, h, List.flatMap_cons, Store.editAll_append]
          rfl

/-- Whatever requests do to a store, its documents stand under their identifiers. -/
theorem identified_answerRequests {memory : Memory} (h : memory.store.Identified)
    (requests : List RpcRequest) :
    (answerRequests Memory.transport requests memory).2.store.Identified := by
  induction requests generalizing memory with
  | nil => exact h
  | cons request rest ih =>
    have hnext : (handleRequest Memory.transport request memory).2.store.Identified := by
      rw [store_handleRequest]
      split
      · exact h
      · exact h.editAll request.edits
    exact ih hnext

end Memory

def additionRequest (collection key : String) : RpcRequest where
  version := "2.0"
  id := some .null
  method := "tools/call"
  params := some (.object [("name", .string "add_document"),
    ("arguments", .object [("collection", .string collection), ("key", .string key),
      ("lang", .string "en"), ("content_md", .string "Text.")])])

example : (additionRequest "Notes" "a").edits =
    [.write "Notes" ⟨"a", "en", ∅, "Text.", false⟩] := rfl

end DocBridge
