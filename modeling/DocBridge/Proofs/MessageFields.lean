import DocBridge.Grpc.Message

/-!
# Messages are read back

What is read from the fields of a message is the message: a field that is written is read as its
value, and one that is not written has the default that is read in its place.  The one exception is
the total of a search, which has to fit 32 bits.
-/

namespace DocBridge.Grpc

/-! ## Fields -/

/-- A type of fields whose values are read back. -/
class LosslessField (α : Type) [FieldType α] : Prop where
  eq_default : ∀ value : α, FieldType.isDefault value = true → value = FieldType.default
  ofJson?_toJson : ∀ value : α, FieldType.ofJson? (FieldType.toJson value) = some value

/-- A type of messages that are read back. -/
class LosslessMessage (α : Type) [Message α] : Prop where
  ofFields_fields : ∀ message : α, Message.ofFields (Message.fields message) = message

theorem decode_encode {α : Type} [Message α] [LosslessMessage α] (message : α) :
    decode (encode message) = message :=
  LosslessMessage.ofFields_fields message

section Fields

variable {α : Type} [FieldType α] {name other : String} {value : α}

@[simp]
theorem lookup_put_of_ne (h : other ≠ name) : (put name value).lookup other = none := by
  rw [put]
  split
  · rfl
  · simp [SortedMap.lookup_cons_of_ne h]

@[simp]
theorem take_eq_getD (members : Json.Members) (name : String) :
    (take members name : α) =
      ((members.lookup name).bind FieldType.ofJson?).getD FieldType.default := rfl

/-- A field is read back, also one that is left out for having its default. -/
@[simp]
theorem getD_lookup_put [LosslessField α] :
    (((put name value).lookup name).bind FieldType.ofJson?).getD FieldType.default = value := by
  rw [put]
  split
  · rename_i hdefault
    exact (LosslessField.eq_default value hdefault).symm
  · simp [LosslessField.ofJson?_toJson]

end Fields

instance : LosslessField String := ⟨fun _ => eq_of_beq, fun _ => rfl⟩

instance : LosslessField Bool where
  eq_default value h := by
    cases value
    · rfl
    · cases h
  ofJson?_toJson _ := rfl

instance : LosslessField Int32 where
  eq_default _ := eq_of_beq
  ofJson?_toJson n := congrArg some (Int32.ofInt_toInt n)

instance : LosslessField Int64 where
  eq_default _ := eq_of_beq
  ofJson?_toJson n := congrArg some (Int64.ofInt_toInt n)

instance : LosslessField (List String) where
  eq_default _ := List.isEmpty_iff.1
  ofJson?_toJson texts := by
    change some ((texts.map Json.string).filterMap Json.string?) = some texts
    rw [List.filterMap_map]
    exact congrArg some List.filterMap_some

instance {α : Type} [Message α] [LosslessMessage α] : LosslessField (List α) where
  eq_default _ := List.isEmpty_iff.1
  ofJson?_toJson messages := by
    change some ((messages.map encode).map decode) = some messages
    rw [List.map_map]
    exact congrArg some (List.map_id'' decode_encode messages)

instance : LosslessField (SortedMap String) where
  eq_default _ := SortedMap.isEmpty_iff.1
  ofJson?_toJson map := by
    have hentries : (map.entries.map fun entry => (entry.1, Json.string entry.2)).filterMap
        (fun member => (member.2.string?).map (member.1, ·)) = map.entries := by
      rw [List.filterMap_map]
      exact List.filterMap_some
    exact congrArg some ((congrArg SortedMap.ofList hentries).trans map.ofList_entries)

instance : LosslessField Meta where
  eq_default _ := SortedMap.isEmpty_iff.1
  ofJson?_toJson map := by
    have hentries : (map.entries.map fun entry => (entry.1, Json.object (put "values" entry.2))).map
        (fun member => (member.1, (take ((member.2.members?).getD []) "values" : List String))) =
        map.entries := by
      rw [List.map_map]
      apply List.map_id''
      intro entry
      exact Prod.ext rfl getD_lookup_put
    exact congrArg some ((congrArg SortedMap.ofList hentries).trans map.ofList_entries)

/-! ## Messages -/

instance : LosslessMessage Document where
  ofFields_fields _ := by
    unfold instMessageDocument
    simp [List.lookup_append]

instance : LosslessMessage DocumentRef where
  ofFields_fields _ := by
    unfold instMessageDocumentRef
    simp [List.lookup_append]

instance : LosslessMessage BatchEntry where
  ofFields_fields _ := by
    unfold instMessageBatchEntry
    simp [List.lookup_append]

instance : LosslessMessage CollectionStats where
  ofFields_fields _ := by
    unfold instMessageCollectionStats
    simp [List.lookup_append]

instance : LosslessMessage Unit := ⟨fun _ => rfl⟩

instance : LosslessMessage AddRequest where
  ofFields_fields _ := by
    unfold instMessageAddRequest
    simp [List.lookup_append]

instance : LosslessMessage WriteBatch where
  ofFields_fields _ := by
    unfold instMessageWriteBatch
    simp [List.lookup_append]

instance : LosslessMessage DeleteBatch where
  ofFields_fields _ := by
    unfold instMessageDeleteBatch
    simp [List.lookup_append]

instance : LosslessMessage GetRequest where
  ofFields_fields _ := by
    unfold instMessageGetRequest
    simp [List.lookup_append]

instance : LosslessMessage SearchRequest where
  ofFields_fields _ := by
    unfold instMessageSearchRequest
    simp [List.lookup_append]

instance : LosslessMessage ExportRequest where
  ofFields_fields _ := by
    unfold instMessageExportRequest
    simp [List.lookup_append]

instance : LosslessMessage BackupRequest where
  ofFields_fields _ := by
    unfold instMessageBackupRequest
    simp

instance : LosslessMessage RestoreRequest where
  ofFields_fields _ := by
    unfold instMessageRestoreRequest
    simp

instance : LosslessMessage TruncateRequest where
  ofFields_fields _ := by
    unfold instMessageTruncateRequest
    simp [List.lookup_append]

instance : LosslessMessage Stats where
  ofFields_fields _ := by
    unfold instMessageStats
    simp [List.lookup_append]

instance : LosslessMessage AddBatchReply where
  ofFields_fields _ := by
    unfold instMessageAddBatchReply
    simp [List.lookup_append]

instance : LosslessMessage UpdateBatchReply where
  ofFields_fields _ := by
    unfold instMessageUpdateBatchReply
    simp [List.lookup_append]

instance : LosslessMessage DeleteBatchReply where
  ofFields_fields _ := by
    unfold instMessageDeleteBatchReply
    simp [List.lookup_append]

instance : LosslessMessage BackupReply where
  ofFields_fields _ := by
    unfold instMessageBackupReply
    simp

instance : LosslessMessage RestoreReply where
  ofFields_fields _ := by
    unfold instMessageRestoreReply
    simp

instance : LosslessMessage TruncateReply where
  ofFields_fields _ := by
    unfold instMessageTruncateReply
    simp

/-- The answer to a search is read back but for its total, of which 32 bits are. -/
theorem decode_encode_searchReply (reply : SearchReply) :
    decode (encode reply) = { reply with total := reply.total.toInt32.toInt64 } := by
  change Message.ofFields (Message.fields reply) = _
  unfold instMessageSearchReply
  simp [List.lookup_append]

end DocBridge.Grpc
