import DocBridge.Grpc.Message
import DocBridge.Transport.Basic

/-!
# Exchanges with a gRPC store

The store has a procedure for eleven of the fourteen operations.  The other three are made of
those: health of the statistics, a deletion of a batch of one, and the deletion of a collection of
a search and a batch with what it found.

An exchange is what happens for one call, message by message, so that it can be said what else may
happen in between.
-/

namespace DocBridge.Grpc

/-- A procedure with one message as its answer. -/
inductive Procedure where
  | add
  | addBatch
  | updateBatch
  | deleteBatch
  | get
  | search
  | backup
  | restore
  | truncate
  | stats
deriving DecidableEq, Repr

def Procedure.name : Procedure → String
  | .add => "Add"
  | .addBatch => "AddBatch"
  | .updateBatch => "UpdateBatch"
  | .deleteBatch => "DeleteBatch"
  | .get => "Get"
  | .search => "Search"
  | .backup => "Backup"
  | .restore => "Restore"
  | .truncate => "Truncate"
  | .stats => "Stats"

def procedurePath (name : String) : String := "/mddb.MDDB/" ++ name

/-- The path of the export procedure, which answers with a stream. -/
def exportPath : String := procedurePath "Export"

/-- The answer of the export procedure: chunks of data, and the status if it is not `ok`. -/
structure Chunks where
  data : List Bytes
  failure : Option Status := none
deriving DecidableEq, Repr

/-- What happens for a call: its outcome, or a message to be sent for an operation and what happens
with the answer.  The answer is an error if the message was not sent or came to nothing. -/
inductive Exchange (α : Type) where
  | done (outcome : Except TransportError α)
  | send (operation : Operation) (procedure : Procedure) (message : Json)
      (next : Except TransportError Json → Exchange α)
  | exportStream (message : Json) (next : Except TransportError Chunks → Exchange α)

namespace Exchange

variable {α β : Type}

/-- An exchange that goes on from the outcome of another one. -/
def andThen : Exchange α → (Except TransportError α → Exchange β) → Exchange β
  | .done outcome, next => next outcome
  | .send operation procedure message continuation, next =>
    .send operation procedure message fun answer => (continuation answer).andThen next
  | .exportStream message continuation, next =>
    .exportStream message fun answer => (continuation answer).andThen next

def map (f : α → β) (exchange : Exchange α) : Exchange β :=
  exchange.andThen fun outcome => .done (outcome.map f)

/-- One message and its answer. -/
def ask {ρ : Type} [Message ρ] [Message α] (operation : Operation) (procedure : Procedure)
    (request : ρ) : Exchange α :=
  .send operation procedure (encode request) fun answer => .done (answer.map decode)

end Exchange

/-- How many documents are listed to delete a collection. -/
def scanLimit : Int32 := 10000

def stats : Exchange Stats := .ask .stats .stats ()

def search (request : SearchRequest) : Exchange SearchReply := .ask .search .search request

def deleteBatch (request : DeleteBatch) : Exchange DeleteBatchReply :=
  .ask .deleteBatch .deleteBatch request

/-- A store that has statistics is well. -/
def health : Exchange Health :=
  stats.map fun stats => { status := "healthy", mode := stats.mode }

/-- The outcome of a deletion by that of a batch of one. -/
def deletionOutcome (reply : DeleteBatchReply) : Except TransportError Unit :=
  match reply.errors with
  | reason :: _ => .error (.backend .delete reason)
  | [] =>
    if reply.deleted = 0 && 0 < reply.notFound then
      .error (.backend .delete "document not found")
    else .ok ()

def delete (request : DeleteRequest) : Exchange Unit :=
  (deleteBatch ⟨request.collection, [⟨request.key, request.lang⟩]⟩).andThen fun outcome =>
    .done (outcome.bind deletionOutcome)

/-- A failure on the way of deleting a collection. -/
def collectionFailure (step : String) (failure : TransportError) : TransportError :=
  .backend .deleteCollection (step ++ ": " ++ failure.message)

/-- Deletion of the documents that a search in the collection finds. -/
def deleteCollection (request : DeleteCollectionRequest) : Exchange DeleteCollectionReply :=
  (search { collection := request.collection, limit := scanLimit }).andThen fun
    | .error failure => .done (.error (collectionFailure "search" failure))
    | .ok found =>
      if found.documents.isEmpty then .done (.ok { deleted := 0 })
      else
        (deleteBatch ⟨request.collection,
          found.documents.map fun document => ⟨document.key, document.lang⟩⟩).andThen fun
          | .error failure => .done (.error (collectionFailure "delete batch" failure))
          | .ok reply => .done (.ok { deleted := reply.deleted })

def exportDocuments (request : ExportRequest) : Exchange ExportStream :=
  .exportStream (encode request) fun answer => .done (answer.map fun chunks => {
    chunks := chunks.data
    failure := chunks.failure.map fun status => .stream .exportDocuments status.message })

/-- What happens for a call. -/
def exchange : (call : Call) → Exchange call.Reply
  | .health => health
  | .stats => stats
  | .add request => .ask (α := Document) .add .add request
  | .addBatch request => .ask (α := AddBatchReply) .addBatch .addBatch request
  | .updateBatch request => .ask (α := UpdateBatchReply) .updateBatch .updateBatch request
  | .deleteBatch request => deleteBatch request
  | .get request => .ask (α := Document) .get .get request
  | .search request => search request
  | .delete request => delete request
  | .deleteCollection request => deleteCollection request
  | .exportDocuments request => exportDocuments request
  | .backup request => .ask (α := BackupReply) .backup .backup request
  | .restore request => .ask (α := RestoreReply) .restore .restore request
  | .truncate request => .ask (α := TruncateReply) .truncate .truncate request

end DocBridge.Grpc
