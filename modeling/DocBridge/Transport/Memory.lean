import DocBridge.Store
import DocBridge.Transport.Basic

/-!
# A transport to a store in memory

It answers from a store at hand, counts what it is asked, and can be told to fail.
-/

namespace DocBridge

/-- A store in memory with what was asked of it. -/
structure Memory where
  store : Store := {}
  failing : Bool := false
  closeFailure : Option String := none
  calls : Nat := 0
  closes : Nat := 0
  lastSearch : Option SearchRequest := none
deriving DecidableEq, Repr

namespace Memory

/-- A reply that leaves the store as it was. -/
def unchanged {α : Type} (memory : Memory) (outcome : Except TransportError α) :
    Except TransportError α × Memory :=
  (outcome, memory)

/-- A reply with the store that it leaves. -/
def changed {α : Type} (memory : Memory) (result : α × Store) :
    Except TransportError α × Memory :=
  (.ok result.1, { memory with store := result.2 })

/-- Answers one call from the store. -/
def answer (memory : Memory) : (call : Call) → call.Outcome × Memory
  | .health => memory.unchanged (.ok { status := "healthy", mode := "wr" })
  | .stats => memory.unchanged (.ok memory.store.stats)
  | .add request => memory.changed (memory.store.add request)
  | .addBatch request => memory.changed (memory.store.addBatch request)
  | .updateBatch request => memory.changed (memory.store.updateBatch request)
  | .deleteBatch request => memory.changed (memory.store.deleteBatch request)
  | .get request =>
    match memory.store.get? request with
    | some document => memory.unchanged (.ok document)
    | none => memory.unchanged (.error (.backend .get "document not found"))
  | .search request =>
    let documents := memory.store.search request
    (.ok { documents := documents, total := Int64.ofNat documents.length },
      { memory with lastSearch := some request })
  | .delete request =>
    match memory.store.delete request with
    | (true, store) => memory.changed ((), store)
    | (false, _) => memory.unchanged (.error (.backend .delete "document not found"))
  | .deleteCollection request =>
    let (deleted, store) := memory.store.deleteCollection request.collection
    memory.changed ({ deleted := deleted }, store)
  | .exportDocuments request =>
    memory.unchanged (.ok { chunks := memory.store.exportLines request })
  | .backup request => memory.unchanged (.ok { backup := request.destination })
  | .restore request => memory.unchanged (.ok { restored := request.source })
  | .truncate _ => memory.unchanged (.ok { status := "truncated" })

/-- Counts a call, and answers it unless the transport is told to fail. -/
def perform (call : Call) (memory : Memory) : call.Outcome × Memory :=
  let counted := { memory with calls := memory.calls + 1 }
  if counted.failing then (.error (.backend call.operation "injected failure"), counted)
  else counted.answer call

/-- Counts a close, which fails if it is told to. -/
def close (memory : Memory) : Except TransportError Unit × Memory :=
  let counted := { memory with closes := memory.closes + 1 }
  match memory.closeFailure with
  | some reason => (.error (.notClosed reason), counted)
  | none => (.ok (), counted)

def transport : Transport Memory := ⟨perform, close⟩

end Memory

end DocBridge
