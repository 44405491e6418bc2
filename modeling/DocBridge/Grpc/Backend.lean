import DocBridge.Grpc.Channel
import DocBridge.Transport.Faultless

/-!
# A gRPC store in memory

A store at hand behind the procedures of the gRPC interface.  Other clients may have calls in
waiting, which are carried out as soon as the next search has been answered.  One collection can
never be exported to its end.  Messages may be of any size in either direction: the limit that a
server and a client put on a message they decode, four mebibytes by default, is left out.
-/

namespace DocBridge.Grpc

/-- A store behind the procedures. -/
structure Backend where
  store : Store := {}
  /-- What other clients do right after the next search. -/
  afterSearch : List Call := []
  searches : Nat := 0
deriving DecidableEq, Repr

namespace Backend

/-- The collection whose export breaks off. -/
def brokenCollection : String := "broken"

/-- An answer that leaves the store as it was. -/
def unchanged {α : Type} [Message α] (backend : Backend) (reply : α) :
    Except Status Json × Backend :=
  (.ok (encode reply), backend)

/-- An answer with the store that it leaves. -/
def changed {α : Type} [Message α] (backend : Backend) (result : α × Store) :
    Except Status Json × Backend :=
  (.ok (encode result.1), { backend with store := result.2 })

def get (backend : Backend) (request : GetRequest) : Except Status Json × Backend :=
  match backend.store.get? request with
  | some document => backend.unchanged document
  | none => (.error ⟨.notFound, "document not found", true⟩, backend)

/-- Answers a search, and then lets the other clients have their way. -/
def search (backend : Backend) (request : SearchRequest) : Except Status Json × Backend :=
  let documents := backend.store.search request
  let reply : SearchReply := { documents := documents, total := Int64.ofNat documents.length }
  (.ok (encode reply), {
    store := backend.store.afterAll backend.afterSearch
    afterSearch := []
    searches := backend.searches + 1 })

def backup (request : BackupRequest) : BackupReply := { backup := request.destination }

def restore (request : RestoreRequest) : RestoreReply := { restored := request.source }

def truncate (request : TruncateRequest) : TruncateReply :=
  { status := "kept " ++ toString request.keepRevs.toInt ++ " revisions" }

/-- Answers a message from the store. -/
def answer (procedure : Procedure) (message : Json) (backend : Backend) :
    Except Status Json × Backend :=
  match procedure with
  | .add => backend.changed (backend.store.add (decode message))
  | .addBatch => backend.changed (backend.store.addBatch (decode message))
  | .updateBatch => backend.changed (backend.store.updateBatch (decode message))
  | .deleteBatch => backend.changed (backend.store.deleteBatch (decode message))
  | .get => backend.get (decode message)
  | .search => backend.search (decode message)
  | .backup => backend.unchanged (backup (decode message))
  | .restore => backend.unchanged (restore (decode message))
  | .truncate => backend.unchanged (truncate (decode message))
  | .stats => backend.unchanged backend.store.stats

/-- The chunks of an export, one for every document. -/
def chunks (backend : Backend) (request : ExportRequest) : Chunks :=
  if request.collection = brokenCollection then
    { data := [utf8Bytes "partial\n"], failure := some ⟨.internal, "disk gone", false⟩ }
  else { data := backend.store.exportLines request }

def wire : Wire Backend where
  send := answer
  sendExport message backend := (.ok (backend.chunks (decode message)), backend)

end Backend

end DocBridge.Grpc
