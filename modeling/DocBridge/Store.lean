import DocBridge.Reply
import DocBridge.Request

/-!
# The document store

Documents under their identifiers, and a clock that counts the writes.  An identifier is the same
in any letter case, and so is a collection.
-/

namespace DocBridge

/-- A stored document with the lowercase name of its collection. -/
structure StoredDocument where
  collection : String
  document : Document
deriving DecidableEq, Repr

structure Store where
  documents : SortedMap StoredDocument := ∅
  clock : Int64 := 0
deriving DecidableEq, Repr

/-- A text with every occurrence of a pattern, from left to right, replaced.  `skipped` characters
belong to the occurrence before. -/
def replaceFrom (pattern value : List Char) (skipped : Nat) : List Char → List Char
  | [] => []
  | character :: rest =>
    match skipped with
    | more + 1 => replaceFrom pattern value more rest
    | 0 =>
      if pattern.isPrefixOf (character :: rest) then
        value ++ replaceFrom pattern value (pattern.length - 1) rest
      else character :: replaceFrom pattern value 0 rest

def replaceAll (pattern value text : String) : String :=
  String.ofList (replaceFrom pattern.toList value.toList 0 text.toList)

/-- A text with the placeholders `%%name%%` of an environment filled in, name by name in their
order. -/
def fillPlaceholders (env : SortedMap String) (text : String) : String :=
  env.entries.foldl (fun filled entry => replaceAll ("%%" ++ entry.1 ++ "%%") entry.2 filled) text

namespace Store

def size (store : Store) : Nat := store.documents.size

def contains (store : Store) (collection key lang : String) : Bool :=
  (store.documents.get? (documentId collection key lang)).isSome

/-- Writes a document; one of the same identifier keeps the time of its addition. -/
def put (store : Store) (collection : String) (entry : BatchEntry) : Document × Store :=
  let id := documentId collection entry.key entry.lang
  let now := store.clock + 1
  let addedAt := match store.documents.get? id with
    | some stored => stored.document.addedAt
    | none => now
  let document : Document := {
    id := id
    key := entry.key
    lang := entry.lang
    metadata := entry.metadata
    contentMd := entry.contentMd
    addedAt := addedAt
    updatedAt := now }
  (document, {
    documents := store.documents.insert id ⟨lowercase collection, document⟩
    clock := now })

/-- Removes a document, and says whether there was one. -/
def remove (store : Store) (collection key lang : String) : Bool × Store :=
  (store.contains collection key lang,
    { store with documents := store.documents.erase (documentId collection key lang) })

def add (store : Store) (request : AddRequest) : Document × Store :=
  store.put request.collection {
    key := request.key
    lang := request.lang
    metadata := request.metadata
    contentMd := request.contentMd
    saveRevision := request.saveRevision }

/-- Writes one entry of a batch and counts it. -/
def addEntry (collection : String) (state : AddBatchReply × Store) (entry : BatchEntry) :
    AddBatchReply × Store :=
  let (reply, store) := state
  let after := (store.put collection entry).2
  if store.contains collection entry.key entry.lang then
    ({ reply with updated := reply.updated + 1 }, after)
  else ({ reply with added := reply.added + 1 }, after)

def addBatch (store : Store) (batch : WriteBatch) : AddBatchReply × Store :=
  batch.documents.foldl (addEntry batch.collection)
    ({ added := 0, updated := 0, failed := 0 }, store)

/-- Writes one entry of a batch if its document is stored, and counts it. -/
def updateEntry (collection : String) (state : UpdateBatchReply × Store) (entry : BatchEntry) :
    UpdateBatchReply × Store :=
  let (reply, store) := state
  if store.contains collection entry.key entry.lang then
    ({ reply with updated := reply.updated + 1 }, (store.put collection entry).2)
  else ({ reply with notFound := reply.notFound + 1 }, store)

def updateBatch (store : Store) (batch : WriteBatch) : UpdateBatchReply × Store :=
  batch.documents.foldl (updateEntry batch.collection)
    ({ updated := 0, notFound := 0, failed := 0 }, store)

/-- Removes the document of one entry of a batch and counts it. -/
def deleteEntry (collection : String) (state : DeleteBatchReply × Store) (entry : DocumentRef) :
    DeleteBatchReply × Store :=
  let (reply, store) := state
  let (found, after) := store.remove collection entry.key entry.lang
  if found then ({ reply with deleted := reply.deleted + 1 }, after)
  else ({ reply with notFound := reply.notFound + 1 }, after)

def deleteBatch (store : Store) (batch : DeleteBatch) : DeleteBatchReply × Store :=
  batch.documents.foldl (deleteEntry batch.collection)
    ({ deleted := 0, notFound := 0, failed := 0 }, store)

def delete (store : Store) (request : DeleteRequest) : Bool × Store :=
  store.remove request.collection request.key request.lang

/-- A document with the placeholders of its content filled in. -/
def get? (store : Store) (request : GetRequest) : Option Document :=
  (store.documents.get? (documentId request.collection request.key request.lang)).map fun stored =>
    { stored.document with
      contentMd := fillPlaceholders request.env stored.document.contentMd }

/-- Whether metadata pass a filter: for every name of it one of its values is there. -/
def passes (filter metadata : Meta) : Bool :=
  filter.entries.all fun wanted =>
    match metadata.get? wanted.1 with
    | some values => values.any wanted.2.contains
    | none => false

/-- The order in which documents are listed. -/
def listedBefore (sort : String) (first second : Document) : Bool :=
  match sort with
  | "addedAt" => first.addedAt ≤ second.addedAt
  | "updatedAt" => first.updatedAt ≤ second.updatedAt
  | _ => first.key ≤ second.key

/-- The documents of a collection that pass a filter, in the order of their identifiers. -/
def matching (store : Store) (collection : String) (filter : Meta) : List Document :=
  (store.documents.values.filter fun stored =>
    stored.collection == lowercase collection && passes filter stored.document.metadata).map
      (·.document)

/-- The documents that a search finds: in its order, from its offset on, up to its limit. -/
def search (store : Store) (request : SearchRequest) : List Document :=
  let sorted := (store.matching request.collection request.filterMeta).mergeSort
    (listedBefore request.sort)
  let ordered := if request.sort ≠ "" ∧ !request.asc then sorted.reverse else sorted
  let rest := ordered.drop request.offset.toInt.toNat
  if 0 < request.limit.toInt then rest.take request.limit.toInt.toNat else rest

/-- Removes every document of a collection and counts them. -/
def deleteCollection (store : Store) (collection : String) : Int32 × Store :=
  let kept := store.documents.filter fun _ stored => stored.collection != lowercase collection
  (Int32.ofNat (store.documents.size - kept.size), { store with documents := kept })

/-- The number of documents of every collection. -/
def counts (store : Store) : SortedMap Nat :=
  store.documents.values.foldl (fun counted stored =>
    counted.insert stored.collection ((counted.get? stored.collection).getD 0 + 1)) ∅

def stats (store : Store) : Stats where
  databasePath := "memory"
  databaseSize := 0
  mode := "wr"
  collections := store.counts.entries.map fun entry =>
    { name := entry.1, documentCount := Int64.ofNat entry.2 }
  totalDocuments := Int64.ofNat store.size
  totalRevisions := 0
  totalMetaIndices := 0

/-- The line of one document in an export. -/
def exportLine (document : Document) : Bytes :=
  Utf8.encode (Json.encode document ++ ['\n'])

/-- The lines of an export, one for every document. -/
def exportLines (store : Store) (request : ExportRequest) : List Bytes :=
  (store.search { collection := request.collection, filterMeta := request.filterMeta }).map
    exportLine

/-- The keys of the documents of a collection, in order. -/
def keys (store : Store) (collection : String) : List String :=
  ((store.documents.values.filter fun stored =>
    stored.collection == lowercase collection).map (·.document.key)).mergeSort fun first second =>
      first ≤ second

end Store

end DocBridge
