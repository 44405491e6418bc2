import DocBridge.Document

/-!
# Requests

What the store can be asked.  A field with a default is left out of the JSON form when it has it.
-/

namespace DocBridge

/-- Add a document, or replace the one of the same identifier. -/
structure AddRequest where
  collection : String
  key : String
  lang : String
  metadata : Meta
  contentMd : String
  saveRevision : Bool
deriving DecidableEq, Repr

/-- Add or update several documents of one collection. -/
structure WriteBatch where
  collection : String
  documents : List BatchEntry
deriving DecidableEq, Repr

/-- Delete several documents of one collection. -/
structure DeleteBatch where
  collection : String
  documents : List DocumentRef
deriving DecidableEq, Repr

/-- Fetch one document.  The values of `env` stand in for placeholders in its content. -/
structure GetRequest where
  collection : String
  key : String
  lang : String
  env : SortedMap String := ∅
deriving DecidableEq, Repr

/-- List the documents of a collection whose metadata pass a filter: for every name of the filter
one of its values has to be among theirs. -/
structure SearchRequest where
  collection : String
  filterMeta : Meta := ∅
  sort : String := ""
  asc : Bool := false
  limit : Int32 := 0
  offset : Int32 := 0
deriving DecidableEq, Repr

structure DeleteRequest where
  collection : String
  key : String
  lang : String
deriving DecidableEq, Repr

/-- Delete every document of a collection. -/
structure DeleteCollectionRequest where
  collection : String
deriving DecidableEq, Repr

/-- Export the documents of a collection that pass a filter. -/
structure ExportRequest where
  collection : String
  filterMeta : Meta := ∅
  format : String
deriving DecidableEq, Repr

/-- Write a backup to a path. -/
structure BackupRequest where
  destination : String
deriving DecidableEq, Repr

/-- Restore the store from a backup at a path. -/
structure RestoreRequest where
  source : String
deriving DecidableEq, Repr

/-- Trim the revision history to the newest `keepRevs` revisions of every document. -/
structure TruncateRequest where
  collection : String
  keepRevs : Int32
  dropCache : Bool
deriving DecidableEq, Repr

/-- Why a batch is not sent. -/
inductive BatchError where
  | missingCollection
  | invalidEntry (index : Nat) (reason : String)
deriving DecidableEq, Repr

def BatchError.message : BatchError → String
  | .missingCollection => "collection is required"
  | .invalidEntry index reason => "invalid document at index " ++ toString index ++ ": " ++ reason

/-- A batch needs a collection and a key in every entry.  The first entry without one is named. -/
def validateBatch (collection : String) (keys : List String) : Except BatchError Unit :=
  if collection = "" then .error .missingCollection
  else
    match keys.findIdx? (· == "") with
    | some index => .error (.invalidEntry index "missing key")
    | none => .ok ()

def WriteBatch.validate (batch : WriteBatch) : Except BatchError Unit :=
  validateBatch batch.collection (batch.documents.map (·.key))

def DeleteBatch.validate (batch : DeleteBatch) : Except BatchError Unit :=
  validateBatch batch.collection (batch.documents.map (·.key))

open Json

instance : Codec AddRequest where
  schema := .record [required "collection" String, required "key" String, required "lang" String,
    required "meta" Meta, required "contentMd" String, required "saveRevision" Bool]
  toJson r := .object (always "collection" r.collection ++ always "key" r.key ++
    always "lang" r.lang ++ always "meta" r.metadata ++ always "contentMd" r.contentMd ++
    always "saveRevision" r.saveRevision)
  ofJson? json := do
    let members ← json.members?
    return {
      collection := ← field members "collection"
      key := ← field members "key"
      lang := ← field members "lang"
      metadata := ← field members "meta"
      contentMd := ← field members "contentMd"
      saveRevision := ← field members "saveRevision" }

instance : Codec WriteBatch where
  schema := .record [required "collection" String, required "documents" (List BatchEntry)]
  toJson r := .object (always "collection" r.collection ++ always "documents" r.documents)
  ofJson? json := do
    let members ← json.members?
    return {
      collection := ← field members "collection"
      documents := ← field members "documents" }

instance : Codec DeleteBatch where
  schema := .record [required "collection" String, required "documents" (List DocumentRef)]
  toJson r := .object (always "collection" r.collection ++ always "documents" r.documents)
  ofJson? json := do
    let members ← json.members?
    return {
      collection := ← field members "collection"
      documents := ← field members "documents" }

instance : Codec GetRequest where
  schema := .record [required "collection" String, required "key" String, required "lang" String,
    optional "env" (SortedMap String)]
  toJson r := .object (always "collection" r.collection ++ always "key" r.key ++
    always "lang" r.lang ++ omittedIf (r.env.isEmpty) "env" r.env)
  ofJson? json := do
    let members ← json.members?
    return {
      collection := ← field members "collection"
      key := ← field members "key"
      lang := ← field members "lang"
      env := ← fieldOr members "env" ∅ }

instance : Codec SearchRequest where
  schema := .record [required "collection" String, optional "filterMeta" Meta,
    optional "sort" String, optional "asc" Bool, optional "limit" Int32, optional "offset" Int32]
  toJson r := .object (always "collection" r.collection ++
    omittedIf (r.filterMeta.isEmpty) "filterMeta" r.filterMeta ++
    omittedIf (r.sort == "") "sort" r.sort ++ omittedIf (!r.asc) "asc" r.asc ++
    omittedIf (r.limit == 0) "limit" r.limit ++ omittedIf (r.offset == 0) "offset" r.offset)
  ofJson? json := do
    let members ← json.members?
    return {
      collection := ← field members "collection"
      filterMeta := ← fieldOr members "filterMeta" ∅
      sort := ← fieldOr members "sort" ""
      asc := ← fieldOr members "asc" false
      limit := ← fieldOr members "limit" 0
      offset := ← fieldOr members "offset" 0 }

instance : Codec DeleteRequest where
  schema := .record [required "collection" String, required "key" String, required "lang" String]
  toJson r := .object (always "collection" r.collection ++ always "key" r.key ++
    always "lang" r.lang)
  ofJson? json := do
    let members ← json.members?
    return {
      collection := ← field members "collection"
      key := ← field members "key"
      lang := ← field members "lang" }

instance : Codec DeleteCollectionRequest where
  schema := .record [required "collection" String]
  toJson r := .object (always "collection" r.collection)
  ofJson? json := do
    let members ← json.members?
    return {
      collection := ← field members "collection" }

instance : Codec ExportRequest where
  schema := .record [required "collection" String, optional "filterMeta" Meta,
    required "format" String]
  toJson r := .object (always "collection" r.collection ++
    omittedIf (r.filterMeta.isEmpty) "filterMeta" r.filterMeta ++ always "format" r.format)
  ofJson? json := do
    let members ← json.members?
    return {
      collection := ← field members "collection"
      filterMeta := ← fieldOr members "filterMeta" ∅
      format := ← field members "format" }

instance : Codec BackupRequest where
  schema := .record [required "to" String]
  toJson r := .object (always "to" r.destination)
  ofJson? json := do
    let members ← json.members?
    return {
      destination := ← field members "to" }

instance : Codec RestoreRequest where
  schema := .record [required "from" String]
  toJson r := .object (always "from" r.source)
  ofJson? json := do
    let members ← json.members?
    return {
      source := ← field members "from" }

instance : Codec TruncateRequest where
  schema := .record [required "collection" String, required "keepRevs" Int32,
    required "dropCache" Bool]
  toJson r := .object (always "collection" r.collection ++ always "keepRevs" r.keepRevs ++
    always "dropCache" r.dropCache)
  ofJson? json := do
    let members ← json.members?
    return {
      collection := ← field members "collection"
      keepRevs := ← field members "keepRevs"
      dropCache := ← field members "dropCache" }

end DocBridge
