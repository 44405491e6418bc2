import DocBridge.Reply
import DocBridge.Request

/-!
# Operations of the store

The fourteen operations that every transport offers.  A call is an operation with its request; the
type of its reply depends on the operation.
-/

namespace DocBridge

/-- An operation of the store. -/
inductive Operation where
  | health
  | stats
  | add
  | addBatch
  | updateBatch
  | deleteBatch
  | get
  | search
  | delete
  | deleteCollection
  | exportDocuments
  | backup
  | restore
  | truncate
deriving DecidableEq, Repr

/-- The name of an operation in error texts. -/
def Operation.label : Operation → String
  | .health => "health"
  | .stats => "stats"
  | .add => "add"
  | .addBatch => "add batch"
  | .updateBatch => "update batch"
  | .deleteBatch => "delete batch"
  | .get => "get"
  | .search => "search"
  | .delete => "delete"
  | .deleteCollection => "delete collection"
  | .exportDocuments => "export"
  | .backup => "backup"
  | .restore => "restore"
  | .truncate => "truncate"

/-- An operation with its request. -/
inductive Call where
  | health
  | stats
  | add (request : AddRequest)
  | addBatch (request : WriteBatch)
  | updateBatch (request : WriteBatch)
  | deleteBatch (request : DeleteBatch)
  | get (request : GetRequest)
  | search (request : SearchRequest)
  | delete (request : DeleteRequest)
  | deleteCollection (request : DeleteCollectionRequest)
  | exportDocuments (request : ExportRequest)
  | backup (request : BackupRequest)
  | restore (request : RestoreRequest)
  | truncate (request : TruncateRequest)
deriving DecidableEq, Repr

def Call.operation : Call → Operation
  | .health => .health
  | .stats => .stats
  | .add _ => .add
  | .addBatch _ => .addBatch
  | .updateBatch _ => .updateBatch
  | .deleteBatch _ => .deleteBatch
  | .get _ => .get
  | .search _ => .search
  | .delete _ => .delete
  | .deleteCollection _ => .deleteCollection
  | .exportDocuments _ => .exportDocuments
  | .backup _ => .backup
  | .restore _ => .restore
  | .truncate _ => .truncate

end DocBridge
