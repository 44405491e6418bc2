import DocBridge.Proofs.JsonTexts
import DocBridge.Reply
import DocBridge.Request

/-!
# Records are read back

Every record of the store, whether it is stored, asked for or answered, is lossless: the members it
writes are the fields of its schema in their order, and a field that is left out has the default
that stands in for it.
-/

namespace DocBridge.Json

/-! ## Fields -/

section Fields

variable {α : Type} [Codec α] {name other : String} {value : α}

@[simp]
theorem lookup_always_self : (always name value).lookup name = some (toJson value) := by
  simp [always]

@[simp]
theorem lookup_always_of_ne (h : other ≠ name) : (always name value).lookup other = none := by
  simp [always, SortedMap.lookup_cons_of_ne h]

@[simp]
theorem lookup_omittedIf_self {omitted : Bool} :
    (omittedIf omitted name value).lookup name = if omitted then none else some (toJson value) := by
  cases omitted <;> simp [omittedIf]

@[simp]
theorem lookup_omittedIf_of_ne {omitted : Bool} (h : other ≠ name) :
    (omittedIf omitted name value).lookup other = none := by
  cases omitted <;> simp [omittedIf, SortedMap.lookup_cons_of_ne h]

@[simp]
theorem members?_object (members : Members) : (Json.object members).members? = some members := rfl

@[simp]
theorem field_eq_bind (members : Members) (name : String) :
    (field members name : Option α) = (members.lookup name).bind Codec.ofJson? := rfl

/-- A field takes its default if it is missing, and is read if it is there, also as null. -/
@[simp]
theorem fieldOr_eq_elim (members : Members) (name : String) (default : α) :
    fieldOr members name default = (members.lookup name).elim (some default) Codec.ofJson? := by
  rw [fieldOr]
  cases members.lookup name <;> rfl

/-- What is left out is the default. -/
@[simp]
theorem elim_of_omitted [Lossless α] {omitted : Prop} [Decidable omitted] {default : α}
    (h : omitted → value = default) :
    (if omitted then none else some (toJson value)).elim (some default) Codec.ofJson? =
      some value := by
  split
  · rename_i homitted
    exact congrArg some (h homitted).symm
  · exact Lossless.ofJson?_toJson value

end Fields

end DocBridge.Json

namespace DocBridge

open Json hiding Document

/-! ## Records -/

instance : Lossless Document where
  depth := 3
  read_toJson _ _ :=
    Written.read Written.nil.always.always.always.always.always.always.always (by decide)
  ofJson?_toJson _ := by
    unfold instCodecDocument
    simp [List.lookup_append]

instance : Lossless DocumentRef where
  depth := 1
  read_toJson _ _ := Written.read Written.nil.always.always (by decide)
  ofJson?_toJson _ := by
    unfold instCodecDocumentRef
    simp [List.lookup_append]

instance : Lossless BatchEntry where
  depth := 3
  read_toJson _ _ := Written.read Written.nil.always.always.always.always.always (by decide)
  ofJson?_toJson _ := by
    unfold instCodecBatchEntry
    simp [List.lookup_append]

instance : Lossless AddRequest where
  depth := 3
  read_toJson _ _ := Written.read Written.nil.always.always.always.always.always.always (by decide)
  ofJson?_toJson _ := by
    unfold instCodecAddRequest
    simp [List.lookup_append]

instance : Lossless WriteBatch where
  depth := 5
  read_toJson _ _ := Written.read Written.nil.always.always (by decide)
  ofJson?_toJson _ := by
    unfold instCodecWriteBatch
    simp [List.lookup_append]

instance : Lossless DeleteBatch where
  depth := 3
  read_toJson _ _ := Written.read Written.nil.always.always (by decide)
  ofJson?_toJson _ := by
    unfold instCodecDeleteBatch
    simp [List.lookup_append]

instance : Lossless GetRequest where
  depth := 2
  read_toJson _ _ := Written.read Written.nil.always.always.always.omittedIf (by decide)
  ofJson?_toJson _ := by
    unfold instCodecGetRequest
    simp [List.lookup_append]

instance : Lossless SearchRequest where
  depth := 3
  read_toJson _ _ :=
    Written.read Written.nil.always.omittedIf.omittedIf.omittedIf.omittedIf.omittedIf (by decide)
  ofJson?_toJson _ := by
    unfold instCodecSearchRequest
    simp [List.lookup_append]

instance : Lossless DeleteRequest where
  depth := 1
  read_toJson _ _ := Written.read Written.nil.always.always.always (by decide)
  ofJson?_toJson _ := by
    unfold instCodecDeleteRequest
    simp [List.lookup_append]

instance : Lossless DeleteCollectionRequest where
  depth := 1
  read_toJson _ _ := Written.read Written.nil.always (by decide)
  ofJson?_toJson _ := by
    unfold instCodecDeleteCollectionRequest
    simp

instance : Lossless ExportRequest where
  depth := 3
  read_toJson _ _ := Written.read Written.nil.always.omittedIf.always (by decide)
  ofJson?_toJson _ := by
    unfold instCodecExportRequest
    simp [List.lookup_append]

instance : Lossless BackupRequest where
  depth := 1
  read_toJson _ _ := Written.read Written.nil.always (by decide)
  ofJson?_toJson _ := by
    unfold instCodecBackupRequest
    simp

instance : Lossless RestoreRequest where
  depth := 1
  read_toJson _ _ := Written.read Written.nil.always (by decide)
  ofJson?_toJson _ := by
    unfold instCodecRestoreRequest
    simp

instance : Lossless TruncateRequest where
  depth := 1
  read_toJson _ _ := Written.read Written.nil.always.always.always (by decide)
  ofJson?_toJson _ := by
    unfold instCodecTruncateRequest
    simp [List.lookup_append]

instance : Lossless Health where
  depth := 1
  read_toJson _ _ := Written.read Written.nil.always.always (by decide)
  ofJson?_toJson _ := by
    unfold instCodecHealth
    simp [List.lookup_append]

instance : Lossless CollectionStats where
  depth := 1
  read_toJson _ _ := Written.read Written.nil.always.always.always.always (by decide)
  ofJson?_toJson _ := by
    unfold instCodecCollectionStats
    simp [List.lookup_append]

instance : Lossless Stats where
  depth := 3
  read_toJson _ _ :=
    Written.read Written.nil.always.always.always.always.always.always.always (by decide)
  ofJson?_toJson _ := by
    unfold instCodecStats
    simp [List.lookup_append]

instance : Lossless AddBatchReply where
  depth := 2
  read_toJson _ _ := Written.read Written.nil.always.always.always.omittedIf (by decide)
  ofJson?_toJson _ := by
    unfold instCodecAddBatchReply
    simp [List.lookup_append]

instance : Lossless UpdateBatchReply where
  depth := 2
  read_toJson _ _ := Written.read Written.nil.always.always.always.omittedIf (by decide)
  ofJson?_toJson _ := by
    unfold instCodecUpdateBatchReply
    simp [List.lookup_append]

instance : Lossless DeleteBatchReply where
  depth := 2
  read_toJson _ _ := Written.read Written.nil.always.always.always.omittedIf (by decide)
  ofJson?_toJson _ := by
    unfold instCodecDeleteBatchReply
    simp [List.lookup_append]

instance : Lossless SearchReply where
  depth := 5
  read_toJson _ _ := Written.read Written.nil.always.always (by decide)
  ofJson?_toJson _ := by
    unfold instCodecSearchReply
    simp [List.lookup_append]

instance : Lossless DeleteCollectionReply where
  depth := 1
  read_toJson _ _ := Written.read Written.nil.always (by decide)
  ofJson?_toJson _ := by
    unfold instCodecDeleteCollectionReply
    simp

instance : Lossless BackupReply where
  depth := 1
  read_toJson _ _ := Written.read Written.nil.always (by decide)
  ofJson?_toJson _ := by
    unfold instCodecBackupReply
    simp

instance : Lossless RestoreReply where
  depth := 1
  read_toJson _ _ := Written.read Written.nil.always (by decide)
  ofJson?_toJson _ := by
    unfold instCodecRestoreReply
    simp

instance : Lossless TruncateReply where
  depth := 1
  read_toJson _ _ := Written.read Written.nil.always (by decide)
  ofJson?_toJson _ := by
    unfold instCodecTruncateReply
    simp

/-! ## Every record -/

/-- The kinds of records that have a JSON form: what is stored, what is asked and what is
answered. -/
inductive RecordKind where
  | document
  | documentRef
  | batchEntry
  | addRequest
  | writeBatch
  | deleteBatch
  | getRequest
  | searchRequest
  | deleteRequest
  | deleteCollectionRequest
  | exportRequest
  | backupRequest
  | restoreRequest
  | truncateRequest
  | health
  | collectionStats
  | stats
  | addBatchReply
  | updateBatchReply
  | deleteBatchReply
  | searchReply
  | deleteCollectionReply
  | backupReply
  | restoreReply
  | truncateReply
deriving DecidableEq, Repr

namespace RecordKind

abbrev Carrier : RecordKind → Type
  | document => Document
  | documentRef => DocumentRef
  | batchEntry => BatchEntry
  | addRequest => AddRequest
  | writeBatch => WriteBatch
  | deleteBatch => DeleteBatch
  | getRequest => GetRequest
  | searchRequest => SearchRequest
  | deleteRequest => DeleteRequest
  | deleteCollectionRequest => DeleteCollectionRequest
  | exportRequest => ExportRequest
  | backupRequest => BackupRequest
  | restoreRequest => RestoreRequest
  | truncateRequest => TruncateRequest
  | health => Health
  | collectionStats => CollectionStats
  | stats => Stats
  | addBatchReply => AddBatchReply
  | updateBatchReply => UpdateBatchReply
  | deleteBatchReply => DeleteBatchReply
  | searchReply => SearchReply
  | deleteCollectionReply => DeleteCollectionReply
  | backupReply => BackupReply
  | restoreReply => RestoreReply
  | truncateReply => TruncateReply

instance instCodecCarrier : (kind : RecordKind) → Codec kind.Carrier
  | document | documentRef | batchEntry | addRequest | writeBatch | deleteBatch | getRequest
  | searchRequest | deleteRequest | deleteCollectionRequest | exportRequest | backupRequest
  | restoreRequest | truncateRequest | health | collectionStats | stats | addBatchReply
  | updateBatchReply | deleteBatchReply | searchReply | deleteCollectionReply | backupReply
  | restoreReply | truncateReply => inferInstance

/-- The JSON form of the records loses nothing: the compact text of a record of any kind, whatever
its texts, integers and maps hold, is decoded to that record. -/
theorem decode_text_of_record (kind : RecordKind) (record : kind.Carrier) :
    decode kind.Carrier (Utf8.encode (encode record)) = .ok record := by
  cases kind <;> exact decode_encode (by decide) record

end RecordKind

end DocBridge
