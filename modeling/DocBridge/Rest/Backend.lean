import DocBridge.Http.FrontEnd
import DocBridge.Rest.Transport
import DocBridge.Transport.Faultless

/-!
# A REST store in memory

A store at hand behind the endpoints of the REST interface.  The body of a request is JSON, or for a
backup there is no body and the query says where it goes.  Bodies may be of any length here: that a
server bounds what it buffers is left out.
-/

namespace DocBridge.Rest

/-- A store behind the endpoints, and what it answers to a truncation. -/
structure Backend where
  store : Store := {}
  truncateBody : Json := .object [("status", .string "truncated")]
deriving Repr

/-- Whether the endpoint of an operation is asked with a body. -/
def takesBody : Operation → Bool
  | .health | .stats | .backup => false
  | _ => true

/-- The operation whose endpoint has a path. -/
def operationAt? (path : String) : Option Operation :=
  [.health, .stats, .add, .addBatch, .updateBatch, .deleteBatch, .get, .search, .delete,
    .deleteCollection, .exportDocuments, .backup, .restore, .truncate].find? fun operation =>
      endpointPath operation == path

/-- Why a request is not taken: for its body or for its query. -/
inductive Rejection where
  | body (reason : Http.Rejection)
  | query (reason : String)
deriving DecidableEq, Repr

def Rejection.status : Rejection → Nat
  | .body .contentType => 415
  | .body .tooLong => 413
  | .body (.body .malformed) => 400
  | .body (.body .mismatch) => 422
  | .query _ => 400

def Rejection.message : Rejection → String
  | .body reason => reason.message
  | .query reason => "Failed to deserialize query string: " ++ reason

/-- The value in the body of a request. -/
def bodyOf (α : Type) [Json.Codec α] (request : Request) : Except Rejection α :=
  match request.body with
  | none => .error (.body .contentType)
  | some body =>
    (Json.decode α (Utf8.encode body.compact)).mapError fun fault => .body (.body fault)

/-- The backup that the query of a request asks for. -/
def backupOf (request : Request) : Except Rejection BackupRequest :=
  let pairs := Url.Form.decode (Utf8.encode (request.url.query.getD []))
  match pairs.filter fun pair => pair.1 == "to" with
  | [] => .error (.query "missing field `to`")
  | [(_, destination)] => .ok { destination := destination }
  | _ => .error (.query "duplicate field `to`")

/-- A response with a value. -/
def success {α : Type} [Json.Codec α] (value : α) : Response :=
  ⟨200, Utf8.encode (Json.encode value)⟩

def notFound : Response := ⟨404, utf8Bytes "document not found"⟩

namespace Backend

/-- A response that leaves the store as it was. -/
def unchanged {α : Type} [Json.Codec α] (backend : Backend) (reply : α) : Response × Backend :=
  (success reply, backend)

/-- A response with the store that it leaves. -/
def changed {α : Type} [Json.Codec α] (backend : Backend) (result : α × Store) :
    Response × Backend :=
  (success result.1, { backend with store := result.2 })

/-- Responds to what a request asks for, if it asks for something. -/
def respondTo {α : Type} (asked : Except Rejection α) (backend : Backend)
    (respond : α → Response × Backend) : Response × Backend :=
  match asked with
  | .error rejection => (⟨rejection.status, utf8Bytes rejection.message⟩, backend)
  | .ok request => respond request

/-- Responds to what the body of a request asks for. -/
def withBody {α : Type} [Json.Codec α] (request : Request) (backend : Backend)
    (respond : α → Response × Backend) : Response × Backend :=
  respondTo (bodyOf α request) backend respond

def get (backend : Backend) (request : GetRequest) : Response × Backend :=
  match backend.store.get? request with
  | some document => backend.unchanged document
  | none => (notFound, backend)

def delete (backend : Backend) (request : DeleteRequest) : Response × Backend :=
  match backend.store.delete request with
  | (true, store) => (success (Json.object [("status", .string "deleted")]), { backend with store })
  | (false, _) => (notFound, backend)

def deleteCollection (backend : Backend) (request : DeleteCollectionRequest) :
    Response × Backend :=
  let (deleted, store) := backend.store.deleteCollection request.collection
  backend.changed (({ deleted := deleted } : DeleteCollectionReply), store)

def health : Json := .object [("mode", .string "wr"), ("status", .string "healthy")]

/-- The lines of an export, one behind the other. -/
def exportDocuments (backend : Backend) (request : ExportRequest) : Response × Backend :=
  (⟨200, (backend.store.exportLines request).flatten⟩, backend)

/-- Responds at the endpoint of an operation. -/
def respondAt (request : Request) (backend : Backend) : Operation → Response × Backend
  | .health => backend.unchanged health
  | .stats => backend.unchanged backend.store.stats
  | .add => withBody request backend fun added => backend.changed (backend.store.add added)
  | .addBatch =>
    withBody request backend fun batch => backend.changed (backend.store.addBatch batch)
  | .updateBatch =>
    withBody request backend fun batch => backend.changed (backend.store.updateBatch batch)
  | .deleteBatch =>
    withBody request backend fun batch => backend.changed (backend.store.deleteBatch batch)
  | .get => withBody request backend backend.get
  | .search =>
    withBody request backend fun asked => backend.unchanged (backend.store.search asked)
  | .delete => withBody request backend backend.delete
  | .deleteCollection => withBody request backend backend.deleteCollection
  | .exportDocuments => withBody request backend backend.exportDocuments
  | .backup =>
    respondTo (backupOf request) backend fun asked =>
      backend.unchanged ({ backup := asked.destination } : BackupReply)
  | .restore =>
    withBody request backend fun (asked : RestoreRequest) =>
      backend.unchanged ({ restored := asked.source } : RestoreReply)
  | .truncate =>
    withBody request backend fun (_ : TruncateRequest) => backend.unchanged backend.truncateBody

/-- Responds to a request: at the endpoint of its path, if it is asked with the right method. -/
def respond (request : Request) (backend : Backend) : Response × Backend :=
  match operationAt? (String.ofList request.url.path.text) with
  | none => (⟨404, []⟩, backend)
  | some operation =>
    if request.method = (if takesBody operation then .post else .get) then
      backend.respondAt request operation
    else (⟨405, []⟩, backend)

def wire : Wire Backend := fun request backend =>
  let (response, after) := backend.respond request
  (some response, after)

end Backend

end DocBridge.Rest
