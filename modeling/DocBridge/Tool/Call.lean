import DocBridge.Arguments
import DocBridge.Tool.Catalog
import DocBridge.Transport.Basic

/-!
# Tool calls

A tool call is decoded from its arguments as a whole before anything is asked of the store, and it
asks the store for exactly one operation.  The reply is rendered as text.
-/

namespace DocBridge

inductive ToolCall where
  | addDocument (request : AddRequest)
  | searchDocuments (request : SearchRequest)
  | deleteDocument (request : DeleteRequest)
  | deleteCollection (request : DeleteCollectionRequest)
  | addBatch (request : WriteBatch)
  | updateBatch (request : WriteBatch)
  | deleteBatch (request : DeleteBatch)
  | getStats
  | exportDocuments (request : ExportRequest)
  | createBackup (request : BackupRequest)
  | restoreBackup (request : RestoreRequest)
  | truncateRevisions (request : TruncateRequest)
deriving DecidableEq, Repr

namespace ToolCall

def tool : ToolCall → Tool
  | .addDocument _ => .addDocument
  | .searchDocuments _ => .searchDocuments
  | .deleteDocument _ => .deleteDocument
  | .deleteCollection _ => .deleteCollection
  | .addBatch _ => .addBatch
  | .updateBatch _ => .updateBatch
  | .deleteBatch _ => .deleteBatch
  | .getStats => .getStats
  | .exportDocuments _ => .exportDocuments
  | .createBackup _ => .createBackup
  | .restoreBackup _ => .restoreBackup
  | .truncateRevisions _ => .truncateRevisions

/-- A batch of documents to be written, checked. -/
def writeBatch (arguments : Arguments) : Except BridgeError WriteBatch := do
  let batch : WriteBatch := {
    collection := ← arguments.requiredString "collection"
    documents := ← arguments.batchEntries "documents" }
  match batch.validate with
  | .ok () => return batch
  | .error failure => throw (.ofBatchError failure)

/-- A batch of documents to be deleted, checked. -/
def deletions (arguments : Arguments) : Except BridgeError DeleteBatch := do
  let batch : DeleteBatch := {
    collection := ← arguments.requiredString "collection"
    documents := ← arguments.documentRefs "documents" }
  match batch.validate with
  | .ok () => return batch
  | .error failure => throw (.ofBatchError failure)

/-- The call of a tool with the given arguments. -/
def ofArguments (tool : Tool) (arguments : Arguments) : Except BridgeError ToolCall :=
  match tool with
  | .addDocument => do
    return .addDocument {
      collection := ← arguments.requiredString "collection"
      key := ← arguments.requiredString "key"
      lang := ← arguments.requiredString "lang"
      metadata := arguments.metadata "meta"
      contentMd := ← arguments.requiredString "content_md"
      saveRevision := arguments.bool "save_revision" }
  | .searchDocuments => do
    return .searchDocuments {
      collection := ← arguments.requiredString "collection"
      filterMeta := arguments.metadata "filter_meta"
      sort := arguments.string "sort"
      asc := arguments.bool "asc"
      limit := arguments.int32 "limit"
      offset := arguments.int32 "offset" }
  | .deleteDocument => do
    return .deleteDocument {
      collection := ← arguments.requiredString "collection"
      key := ← arguments.requiredString "key"
      lang := ← arguments.requiredString "lang" }
  | .deleteCollection => do
    return .deleteCollection { collection := ← arguments.requiredString "collection" }
  | .addBatch => .addBatch <$> writeBatch arguments
  | .updateBatch => .updateBatch <$> writeBatch arguments
  | .deleteBatch => .deleteBatch <$> deletions arguments
  | .getStats => .ok .getStats
  | .exportDocuments => do
    return .exportDocuments {
      collection := ← arguments.requiredString "collection"
      filterMeta := arguments.metadata "filter_meta"
      format := arguments.string "format" }
  | .createBackup => do return .createBackup { destination := ← arguments.requiredString "to" }
  | .restoreBackup => do return .restoreBackup { source := ← arguments.requiredString "from" }
  | .truncateRevisions =>
    .ok (.truncateRevisions {
      collection := arguments.string "collection"
      keepRevs := arguments.int32 "keep_revs"
      dropCache := arguments.bool "drop_cache" })

/-- The call of the tool of a name with the given arguments. -/
def decode (name : String) (arguments : Arguments) : Except BridgeError ToolCall :=
  match Tool.ofName? name with
  | some tool => ofArguments tool arguments
  | none => .error (.unknownTool name)

/-- What a tool call asks of the store. -/
def call : ToolCall → Call
  | .addDocument request => .add request
  | .searchDocuments request => .search request
  | .deleteDocument request => .delete request
  | .deleteCollection request => .deleteCollection request
  | .addBatch request => .addBatch request
  | .updateBatch request => .updateBatch request
  | .deleteBatch request => .deleteBatch request
  | .getStats => .stats
  | .exportDocuments request => .exportDocuments request
  | .createBackup request => .backup request
  | .restoreBackup request => .restore request
  | .truncateRevisions request => .truncate request

/-- The JSON form of a value over several lines. -/
def pretty {α : Type} [Json.Codec α] (value : α) : String := (Json.toJson value).prettyString

/-- The text that an agent gets for the store's reply.  An export is only acknowledged. -/
def render : (toolCall : ToolCall) → toolCall.call.Reply → String
  | .addDocument _, (document : Document) => "Document added successfully:\n" ++ pretty document
  | .searchDocuments _, (reply : SearchReply) => pretty reply
  | .deleteDocument request, _ =>
    "Document deleted: " ++ request.collection ++ "/" ++ request.key ++ " (" ++ request.lang ++ ")"
  | .deleteCollection request, (reply : DeleteCollectionReply) =>
    "Collection deleted: " ++ request.collection ++ " (" ++ toString reply.deleted.toInt ++
      " documents)"
  | .addBatch _, (reply : AddBatchReply) => pretty reply
  | .updateBatch _, (reply : UpdateBatchReply) => pretty reply
  | .deleteBatch _, (reply : DeleteBatchReply) => pretty reply
  | .getStats, (reply : Stats) => pretty reply
  | .exportDocuments request, _ => "Export started for collection: " ++ request.collection
  | .createBackup _, (reply : BackupReply) => "Backup created: " ++ reply.backup
  | .restoreBackup _, (reply : RestoreReply) => "Database restored from: " ++ reply.restored
  | .truncateRevisions _, (reply : TruncateReply) => "Revisions truncated: " ++ reply.status

end ToolCall

end DocBridge
