import DocBridge.Reply
import DocBridge.Request

/-!
# Messages of the gRPC interface

A message is a record of named fields in which a field with the default of its type is not written:
the empty text, zero, false, and nothing in a list or map.  A field that is not there is read as
that default.
-/

namespace DocBridge.Grpc

open Json (Members)

/-- A type of fields: its default, and the form of the other values. -/
class FieldType (α : Type) where
  /-- The value of a field that is not written. -/
  default : α
  /-- Whether a value is not written. -/
  isDefault : α → Bool
  /-- The form of a value. -/
  toJson : α → Json
  /-- The value of a form. -/
  ofJson? : Json → Option α

/-- A type of messages. -/
class Message (α : Type) where
  /-- The fields that are written. -/
  fields : α → Members
  /-- The message of some fields. -/
  ofFields : Members → α

/-- A field, if it is to be written. -/
def put {α : Type} [FieldType α] (name : String) (value : α) : Members :=
  if FieldType.isDefault value then [] else [(name, FieldType.toJson value)]

def take {α : Type} [FieldType α] (members : Members) (name : String) : α :=
  ((members.lookup name).bind FieldType.ofJson?).getD FieldType.default

def encode {α : Type} [Message α] (message : α) : Json := .object (Message.fields message)

def decode {α : Type} [Message α] (json : Json) : α :=
  Message.ofFields ((json.members?).getD [])

/-! ## Types of fields -/

instance : FieldType String := ⟨"", (· == ""), .string, Json.string?⟩

instance : FieldType Bool := ⟨false, (!·), .bool, Json.bool?⟩

instance : FieldType Int32 where
  default := 0
  isDefault := (· == 0)
  toJson n := .number (.ofInt32 n)
  ofJson? json := (json.number?.bind Number.toInt?).map Int32.ofInt

instance : FieldType Int64 where
  default := 0
  isDefault := (· == 0)
  toJson n := .number (.ofInt64 n)
  ofJson? json := (json.number?.bind Number.toInt?).map Int64.ofInt

instance : FieldType (List String) where
  default := []
  isDefault := List.isEmpty
  toJson texts := .array (texts.map .string)
  ofJson? json := json.items?.map (·.filterMap Json.string?)

instance {α : Type} [Message α] : FieldType (List α) where
  default := []
  isDefault := List.isEmpty
  toJson messages := .array (messages.map encode)
  ofJson? json := json.items?.map (·.map decode)

instance : FieldType (SortedMap String) where
  default := ∅
  isDefault := SortedMap.isEmpty
  toJson map := .object (map.entries.map fun entry => (entry.1, .string entry.2))
  ofJson? json := json.members?.map fun members =>
    .ofList (members.filterMap fun member => (member.2.string?).map (member.1, ·))

/-- The values under a name of metadata are a message with one field. -/
instance : FieldType Meta where
  default := ∅
  isDefault := SortedMap.isEmpty
  toJson map := .object (map.entries.map fun entry => (entry.1, .object (put "values" entry.2)))
  ofJson? json := json.members?.map fun members =>
    .ofList (members.map fun member => (member.1, take ((member.2.members?).getD []) "values"))

/-! ## Records -/

instance : Message Document where
  fields d := put "id" d.id ++ put "key" d.key ++ put "lang" d.lang ++ put "meta" d.metadata ++
    put "content_md" d.contentMd ++ put "added_at" d.addedAt ++ put "updated_at" d.updatedAt
  ofFields members := {
    id := take members "id"
    key := take members "key"
    lang := take members "lang"
    metadata := take members "meta"
    contentMd := take members "content_md"
    addedAt := take members "added_at"
    updatedAt := take members "updated_at" }

instance : Message DocumentRef where
  fields d := put "key" d.key ++ put "lang" d.lang
  ofFields members := { key := take members "key", lang := take members "lang" }

instance : Message BatchEntry where
  fields d := put "key" d.key ++ put "lang" d.lang ++ put "meta" d.metadata ++
    put "content_md" d.contentMd ++ put "save_revision" d.saveRevision
  ofFields members := {
    key := take members "key"
    lang := take members "lang"
    metadata := take members "meta"
    contentMd := take members "content_md"
    saveRevision := take members "save_revision" }

instance : Message CollectionStats where
  fields s := put "name" s.name ++ put "document_count" s.documentCount ++
    put "revision_count" s.revisionCount ++ put "meta_index_count" s.metaIndexCount
  ofFields members := {
    name := take members "name"
    documentCount := take members "document_count"
    revisionCount := take members "revision_count"
    metaIndexCount := take members "meta_index_count" }

/-! ## Requests -/

instance : Message Unit := ⟨fun _ => [], fun _ => ()⟩

instance : Message AddRequest where
  fields r := put "collection" r.collection ++ put "key" r.key ++ put "lang" r.lang ++
    put "meta" r.metadata ++ put "content_md" r.contentMd ++ put "save_revision" r.saveRevision
  ofFields members := {
    collection := take members "collection"
    key := take members "key"
    lang := take members "lang"
    metadata := take members "meta"
    contentMd := take members "content_md"
    saveRevision := take members "save_revision" }

instance : Message WriteBatch where
  fields r := put "collection" r.collection ++ put "documents" r.documents
  ofFields members := {
    collection := take members "collection"
    documents := take members "documents" }

instance : Message DeleteBatch where
  fields r := put "collection" r.collection ++ put "documents" r.documents
  ofFields members := {
    collection := take members "collection"
    documents := take members "documents" }

instance : Message GetRequest where
  fields r := put "collection" r.collection ++ put "key" r.key ++ put "lang" r.lang ++
    put "env" r.env
  ofFields members := {
    collection := take members "collection"
    key := take members "key"
    lang := take members "lang"
    env := take members "env" }

instance : Message SearchRequest where
  fields r := put "collection" r.collection ++ put "filter_meta" r.filterMeta ++
    put "sort" r.sort ++ put "asc" r.asc ++ put "limit" r.limit ++ put "offset" r.offset
  ofFields members := {
    collection := take members "collection"
    filterMeta := take members "filter_meta"
    sort := take members "sort"
    asc := take members "asc"
    limit := take members "limit"
    offset := take members "offset" }

instance : Message ExportRequest where
  fields r := put "collection" r.collection ++ put "filter_meta" r.filterMeta ++
    put "format" r.format
  ofFields members := {
    collection := take members "collection"
    filterMeta := take members "filter_meta"
    format := take members "format" }

instance : Message BackupRequest where
  fields r := put "to" r.destination
  ofFields members := { destination := take members "to" }

instance : Message RestoreRequest where
  fields r := put "from" r.source
  ofFields members := { source := take members "from" }

instance : Message TruncateRequest where
  fields r := put "collection" r.collection ++ put "keep_revs" r.keepRevs ++
    put "drop_cache" r.dropCache
  ofFields members := {
    collection := take members "collection"
    keepRevs := take members "keep_revs"
    dropCache := take members "drop_cache" }

/-! ## Replies -/

instance : Message Stats where
  fields s := put "database_path" s.databasePath ++ put "database_size" s.databaseSize ++
    put "mode" s.mode ++ put "collections" s.collections ++
    put "total_documents" s.totalDocuments ++ put "total_revisions" s.totalRevisions ++
    put "total_meta_indices" s.totalMetaIndices
  ofFields members := {
    databasePath := take members "database_path"
    databaseSize := take members "database_size"
    mode := take members "mode"
    collections := take members "collections"
    totalDocuments := take members "total_documents"
    totalRevisions := take members "total_revisions"
    totalMetaIndices := take members "total_meta_indices" }

instance : Message AddBatchReply where
  fields r := put "added" r.added ++ put "updated" r.updated ++ put "failed" r.failed ++
    put "errors" r.errors
  ofFields members := {
    added := take members "added"
    updated := take members "updated"
    failed := take members "failed"
    errors := take members "errors" }

instance : Message UpdateBatchReply where
  fields r := put "updated" r.updated ++ put "not_found" r.notFound ++ put "failed" r.failed ++
    put "errors" r.errors
  ofFields members := {
    updated := take members "updated"
    notFound := take members "not_found"
    failed := take members "failed"
    errors := take members "errors" }

instance : Message DeleteBatchReply where
  fields r := put "deleted" r.deleted ++ put "not_found" r.notFound ++ put "failed" r.failed ++
    put "errors" r.errors
  ofFields members := {
    deleted := take members "deleted"
    notFound := take members "not_found"
    failed := take members "failed"
    errors := take members "errors" }

/-- The total of a search travels in 32 bits. -/
instance : Message SearchReply where
  fields r := put "documents" r.documents ++ put "total" r.total.toInt32
  ofFields members := {
    documents := take members "documents"
    total := (take members "total" : Int32).toInt64 }

instance : Message BackupReply where
  fields r := put "backup" r.backup
  ofFields members := { backup := take members "backup" }

instance : Message RestoreReply where
  fields r := put "restored" r.restored
  ofFields members := { restored := take members "restored" }

instance : Message TruncateReply where
  fields r := put "status" r.status
  ofFields members := { status := take members "status" }

end DocBridge.Grpc
