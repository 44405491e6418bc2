import DocBridge.Json.Codec
import DocBridge.Tool.Schema

/-!
# The catalog of tools

The twelve tools that an agent can call, with what it is told about them.
-/

namespace DocBridge

open Json

/-- A tool as it is announced. -/
structure ToolDefinition where
  name : String
  description : String
  inputSchema : Json
deriving Repr

instance : Codec ToolDefinition where
  schema := .record [required "name" String, required "description" String,
    required "inputSchema" Json]
  toJson tool := .object (always "name" tool.name ++ always "description" tool.description ++
    always "inputSchema" tool.inputSchema)
  ofJson? json := do
    let members ← json.members?
    return {
      name := ← field members "name"
      description := ← field members "description"
      inputSchema := ← field members "inputSchema" }

inductive Tool where
  | addDocument
  | searchDocuments
  | deleteDocument
  | deleteCollection
  | addBatch
  | updateBatch
  | deleteBatch
  | getStats
  | exportDocuments
  | createBackup
  | restoreBackup
  | truncateRevisions
deriving DecidableEq, Repr

namespace Tool

/-- Every tool, in the order in which they are announced. -/
def all : List Tool :=
  [.addDocument, .searchDocuments, .deleteDocument, .deleteCollection, .addBatch, .updateBatch,
    .deleteBatch, .getStats, .exportDocuments, .createBackup, .restoreBackup, .truncateRevisions]

def name : Tool → String
  | .addDocument => "add_document"
  | .searchDocuments => "search_documents"
  | .deleteDocument => "delete_document"
  | .deleteCollection => "delete_collection"
  | .addBatch => "add_documents_batch"
  | .updateBatch => "update_documents_batch"
  | .deleteBatch => "delete_documents_batch"
  | .getStats => "get_stats"
  | .exportDocuments => "export_documents"
  | .createBackup => "create_backup"
  | .restoreBackup => "restore_backup"
  | .truncateRevisions => "truncate_revisions"

def ofName? (text : String) : Option Tool := all.find? fun tool => tool.name == text

theorem mem_all (tool : Tool) : tool ∈ all := by
  cases tool <;> decide

theorem ofName?_name (tool : Tool) : ofName? tool.name = some tool := by
  cases tool <;> rfl

theorem name_of_ofName? {text : String} {tool : Tool} (h : ofName? text = some tool) :
    tool.name = text := by
  rw [ofName?] at h
  simpa using List.find?_some h

theorem ofName?_eq_none_iff {text : String} :
    ofName? text = none ↔ ∀ tool ∈ all, tool.name ≠ text := by
  simp [ofName?]

def description : Tool → String
  | .addDocument =>
    "Add or update a document in MDDB. Metadata values may be a string or a list of strings. " ++
      "Returns the stored document."
  | .searchDocuments =>
    "Search documents with metadata filters and sorting. Filters are ANDed across keys and " ++
      "ORed across the values of one key."
  | .deleteDocument => "Delete a document from MDDB"
  | .deleteCollection =>
    "Delete every document in a collection. Documents added while the deletion runs may survive."
  | .addBatch =>
    "Add or update multiple documents in one transaction. Each entry takes key, lang, " ++
      "content_md, meta and save_revision."
  | .updateBatch =>
    "Update multiple existing documents in one transaction. Entries that do not exist are " ++
      "counted as not found."
  | .deleteBatch =>
    "Delete multiple documents in one transaction. Each entry takes key and lang."
  | .getStats => "Get MDDB server statistics"
  | .exportDocuments =>
    "Start an export of a collection as ndjson or zip. The export payload is not returned " ++
      "through this tool."
  | .createBackup => "Create a database backup file"
  | .restoreBackup => "Restore the database from a backup file"
  | .truncateRevisions =>
    "Trim revision history, keeping the newest keep_revs revisions per document. Without a " ++
      "collection every collection is truncated."

def arguments : Tool → ArgumentSchema
  | .addDocument =>
    { required := [("collection", .string), ("key", .string), ("lang", .string),
        ("content_md", .string)]
      optional := [("meta", .metadata), ("save_revision", .boolean)] }
  | .searchDocuments =>
    { required := [("collection", .string)]
      optional := [("filter_meta", .metadata), ("sort", .string), ("asc", .boolean),
        ("limit", .integer), ("offset", .integer)] }
  | .deleteDocument =>
    { required := [("collection", .string), ("key", .string), ("lang", .string)] }
  | .deleteCollection => { required := [("collection", .string)] }
  | .addBatch | .updateBatch | .deleteBatch =>
    { required := [("collection", .string), ("documents", .entries)] }
  | .getStats => {}
  | .exportDocuments =>
    { required := [("collection", .string)]
      optional := [("filter_meta", .metadata), ("format", .string)] }
  | .createBackup => { required := [("to", .string)] }
  | .restoreBackup => { required := [("from", .string)] }
  | .truncateRevisions =>
    { optional := [("collection", .string), ("keep_revs", .integer), ("drop_cache", .boolean)] }

def definition (tool : Tool) : ToolDefinition where
  name := tool.name
  description := tool.description
  inputSchema := tool.arguments.toJson

end Tool

end DocBridge
