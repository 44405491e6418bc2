import DocBridge.Document

/-!
# Replies

What the store answers.  Every field of the JSON form has a default.
-/

namespace DocBridge

structure Health where
  status : String := ""
  mode : String := ""
deriving DecidableEq, Repr

/-- Counts of one collection. -/
structure CollectionStats where
  name : String := ""
  documentCount : Int64 := 0
  revisionCount : Int64 := 0
  metaIndexCount : Int64 := 0
deriving DecidableEq, Repr

/-- Counts of the store. -/
structure Stats where
  databasePath : String := ""
  databaseSize : Int64 := 0
  mode : String := ""
  collections : List CollectionStats := []
  totalDocuments : Int64 := 0
  totalRevisions : Int64 := 0
  totalMetaIndices : Int64 := 0
deriving DecidableEq, Repr

structure AddBatchReply where
  added : Int32 := 0
  updated : Int32 := 0
  failed : Int32 := 0
  errors : List String := []
deriving DecidableEq, Repr

structure UpdateBatchReply where
  updated : Int32 := 0
  notFound : Int32 := 0
  failed : Int32 := 0
  errors : List String := []
deriving DecidableEq, Repr

structure DeleteBatchReply where
  deleted : Int32 := 0
  notFound : Int32 := 0
  failed : Int32 := 0
  errors : List String := []
deriving DecidableEq, Repr

/-- The documents found and how many there are. -/
structure SearchReply where
  documents : List Document := []
  total : Int64 := 0
deriving DecidableEq, Repr

/-- How many documents of a collection were deleted. -/
structure DeleteCollectionReply where
  deleted : Int32 := 0
deriving DecidableEq, Repr

/-- The path of a backup. -/
structure BackupReply where
  backup : String := ""
deriving DecidableEq, Repr

/-- The path of the backup that was restored. -/
structure RestoreReply where
  restored : String := ""
deriving DecidableEq, Repr

/-- What became of the revision history. -/
structure TruncateReply where
  status : String := ""
deriving DecidableEq, Repr

open Json

instance : Codec Health where
  schema := .record [optional "status" String, optional "mode" String]
  toJson r := .object (always "status" r.status ++ always "mode" r.mode)
  ofJson? json := do
    let members ← json.members?
    return {
      status := ← fieldOr members "status" ""
      mode := ← fieldOr members "mode" "" }

instance : Codec CollectionStats where
  schema := .record [optional "name" String, optional "documentCount" Int64,
    optional "revisionCount" Int64, optional "metaIndexCount" Int64]
  toJson r := .object (always "name" r.name ++ always "documentCount" r.documentCount ++
    always "revisionCount" r.revisionCount ++ always "metaIndexCount" r.metaIndexCount)
  ofJson? json := do
    let members ← json.members?
    return {
      name := ← fieldOr members "name" ""
      documentCount := ← fieldOr members "documentCount" 0
      revisionCount := ← fieldOr members "revisionCount" 0
      metaIndexCount := ← fieldOr members "metaIndexCount" 0 }

instance : Codec Stats where
  schema := .record [optional "databasePath" String, optional "databaseSize" Int64,
    optional "mode" String, optional "collections" (List CollectionStats),
    optional "totalDocuments" Int64, optional "totalRevisions" Int64,
    optional "totalMetaIndices" Int64]
  toJson r := .object (always "databasePath" r.databasePath ++
    always "databaseSize" r.databaseSize ++ always "mode" r.mode ++
    always "collections" r.collections ++ always "totalDocuments" r.totalDocuments ++
    always "totalRevisions" r.totalRevisions ++ always "totalMetaIndices" r.totalMetaIndices)
  ofJson? json := do
    let members ← json.members?
    return {
      databasePath := ← fieldOr members "databasePath" ""
      databaseSize := ← fieldOr members "databaseSize" 0
      mode := ← fieldOr members "mode" ""
      collections := ← fieldOr members "collections" []
      totalDocuments := ← fieldOr members "totalDocuments" 0
      totalRevisions := ← fieldOr members "totalRevisions" 0
      totalMetaIndices := ← fieldOr members "totalMetaIndices" 0 }

instance : Codec AddBatchReply where
  schema := .record [optional "added" Int32, optional "updated" Int32, optional "failed" Int32,
    optional "errors" (List String)]
  toJson r := .object (always "added" r.added ++ always "updated" r.updated ++
    always "failed" r.failed ++ omittedIf (r.errors.isEmpty) "errors" r.errors)
  ofJson? json := do
    let members ← json.members?
    return {
      added := ← fieldOr members "added" 0
      updated := ← fieldOr members "updated" 0
      failed := ← fieldOr members "failed" 0
      errors := ← fieldOr members "errors" [] }

instance : Codec UpdateBatchReply where
  schema := .record [optional "updated" Int32, optional "notFound" Int32, optional "failed" Int32,
    optional "errors" (List String)]
  toJson r := .object (always "updated" r.updated ++ always "notFound" r.notFound ++
    always "failed" r.failed ++ omittedIf (r.errors.isEmpty) "errors" r.errors)
  ofJson? json := do
    let members ← json.members?
    return {
      updated := ← fieldOr members "updated" 0
      notFound := ← fieldOr members "notFound" 0
      failed := ← fieldOr members "failed" 0
      errors := ← fieldOr members "errors" [] }

instance : Codec DeleteBatchReply where
  schema := .record [optional "deleted" Int32, optional "notFound" Int32, optional "failed" Int32,
    optional "errors" (List String)]
  toJson r := .object (always "deleted" r.deleted ++ always "notFound" r.notFound ++
    always "failed" r.failed ++ omittedIf (r.errors.isEmpty) "errors" r.errors)
  ofJson? json := do
    let members ← json.members?
    return {
      deleted := ← fieldOr members "deleted" 0
      notFound := ← fieldOr members "notFound" 0
      failed := ← fieldOr members "failed" 0
      errors := ← fieldOr members "errors" [] }

instance : Codec SearchReply where
  schema := .record [optional "documents" (List Document), optional "total" Int64]
  toJson r := .object (always "documents" r.documents ++ always "total" r.total)
  ofJson? json := do
    let members ← json.members?
    return {
      documents := ← fieldOr members "documents" []
      total := ← fieldOr members "total" 0 }

instance : Codec DeleteCollectionReply where
  schema := .record [optional "deleted" Int32]
  toJson r := .object (always "deleted" r.deleted)
  ofJson? json := do
    let members ← json.members?
    return {
      deleted := ← fieldOr members "deleted" 0 }

instance : Codec BackupReply where
  schema := .record [optional "backup" String]
  toJson r := .object (always "backup" r.backup)
  ofJson? json := do
    let members ← json.members?
    return {
      backup := ← fieldOr members "backup" "" }

instance : Codec RestoreReply where
  schema := .record [optional "restored" String]
  toJson r := .object (always "restored" r.restored)
  ofJson? json := do
    let members ← json.members?
    return {
      restored := ← fieldOr members "restored" "" }

instance : Codec TruncateReply where
  schema := .record [optional "status" String]
  toJson r := .object (always "status" r.status)
  ofJson? json := do
    let members ← json.members?
    return {
      status := ← fieldOr members "status" "" }

end DocBridge
