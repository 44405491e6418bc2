import DocBridge.Transport.Faultless

/-!
# What calls change in a store

A call changes a store entry by entry: it writes a document, writes one that has to be there,
removes one, or removes a collection.  So whatever a call does to a store is said by the list of its
edits, and what every edit keeps is kept by every call.
-/

namespace DocBridge

/-- The smallest change of a store. -/
inductive Edit where
  | write (collection : String) (entry : BatchEntry)
  /-- Writes a document only if one of its identifier is there. -/
  | update (collection : String) (entry : BatchEntry)
  | remove (collection : String) (entry : DocumentRef)
  /-- Removes every document of a collection. -/
  | clear (collection : String)
deriving DecidableEq, Repr

namespace Edit

def collection : Edit → String
  | .write collection _ | .update collection _ | .remove collection _ | .clear collection =>
    collection

def id? : Edit → Option String
  | .write collection entry | .update collection entry =>
    some (documentId collection entry.key entry.lang)
  | .remove collection entry => some (documentId collection entry.key entry.lang)
  | .clear _ => none

/-- An edit that is about another identifier, or about another collection as a whole.  The
collection of the document that is spared is given in lowercase. -/
def Spares (id collection : String) : Edit → Prop
  | .clear other => collection ≠ lowercase other
  | edit => edit.id? ≠ some id

theorem spares_of_ne {edit : Edit} {id collection : String} (hid : edit.id? ≠ some id)
    (hcollection : collection ≠ lowercase edit.collection) : edit.Spares id collection := by
  cases edit with
  | clear other => exact hcollection
  | _ => exact hid

end Edit

def Call.edits : Call → List Edit
  | .add request =>
    [.write request.collection {
      key := request.key
      lang := request.lang
      metadata := request.metadata
      contentMd := request.contentMd
      saveRevision := request.saveRevision }]
  | .addBatch batch => batch.documents.map (.write batch.collection)
  | .updateBatch batch => batch.documents.map (.update batch.collection)
  | .deleteBatch batch => batch.documents.map (.remove batch.collection)
  | .delete request => [.remove request.collection ⟨request.key, request.lang⟩]
  | .deleteCollection request => [.clear request.collection]
  | _ => []

namespace Store

def edit (store : Store) : Edit → Store
  | .write collection entry => (store.put collection entry).2
  | .update collection entry =>
    if store.contains collection entry.key entry.lang then (store.put collection entry).2
    else store
  | .remove collection entry => (store.remove collection entry.key entry.lang).2
  | .clear collection => (store.deleteCollection collection).2

def editAll (store : Store) (edits : List Edit) : Store := edits.foldl edit store

theorem editAll_append (store : Store) (first second : List Edit) :
    store.editAll (first ++ second) = (store.editAll first).editAll second :=
  List.foldl_append

/-! ## Calls -/

theorem addBatch_snd (store : Store) (batch : WriteBatch) :
    (store.addBatch batch).2 = store.editAll (batch.documents.map (.write batch.collection)) := by
  rw [editAll, List.foldl_map]
  refine (List.foldl_hom Prod.snd fun state entry => ?_).symm
  simp only [addEntry, edit]
  split <;> rfl

theorem updateBatch_snd (store : Store) (batch : WriteBatch) :
    (store.updateBatch batch).2 =
      store.editAll (batch.documents.map (.update batch.collection)) := by
  rw [editAll, List.foldl_map]
  refine (List.foldl_hom Prod.snd fun state entry => ?_).symm
  simp only [updateEntry, edit]
  split <;> rfl

theorem deleteBatch_snd (store : Store) (batch : DeleteBatch) :
    (store.deleteBatch batch).2 =
      store.editAll (batch.documents.map (.remove batch.collection)) := by
  rw [editAll, List.foldl_map]
  refine (List.foldl_hom Prod.snd fun state entry => ?_).symm
  simp only [deleteEntry, edit]
  split <;> rfl

/-- Nothing is removed where there is nothing. -/
theorem remove_of_absent {store : Store} {collection key lang : String}
    (h : store.contains collection key lang = false) :
    store.remove collection key lang = (false, store) := by
  rw [contains, Option.isSome_eq_false_iff, Option.isNone_iff_eq_none] at h
  rw [remove, contains, h, SortedMap.erase_of_get?_eq_none h]
  rfl

/-- A deletion that fails removes nothing, and there was nothing to remove. -/
theorem after_delete (store : Store) (request : DeleteRequest) :
    store.after (.delete request) =
      (store.remove request.collection request.key request.lang).2 := by
  cases hfound : store.contains request.collection request.key request.lang with
  | true =>
    have hremove : store.delete request =
        (true, (store.remove request.collection request.key request.lang).2) := by
      rw [delete, ← hfound]
      rfl
    simp [after, answer, Memory.answer, hremove, Memory.changed]
  | false =>
    have hremove := remove_of_absent hfound
    simp [after, answer, Memory.answer, delete, hremove, Memory.unchanged]

/-- A call leaves what its edits leave. -/
theorem after_eq_editAll (store : Store) (call : Call) :
    store.after call = store.editAll call.edits := by
  cases call with
  | addBatch batch => exact store.addBatch_snd batch
  | updateBatch batch => exact store.updateBatch_snd batch
  | deleteBatch batch => exact store.deleteBatch_snd batch
  | delete request => exact store.after_delete request
  | get request =>
    simp only [after, answer, Memory.answer]
    split <;> rfl
  | _ => rfl

/-! ## Induction over edits and calls -/

section Induction

variable {motive : Store → Prop}

/-- What every write and every removal keeps is kept by every edit. -/
theorem edit_induction
    (hput : ∀ store collection entry, motive store → motive (store.put collection entry).2)
    (hfilter : ∀ store keep, motive store →
      motive { store with documents := store.documents.filter keep })
    {store : Store} (edit : Edit) (h : motive store) : motive (store.edit edit) := by
  cases edit with
  | write collection entry => exact hput store collection entry h
  | update collection entry =>
    rw [Store.edit]
    split
    · exact hput store collection entry h
    · exact h
  | remove collection entry =>
    exact hfilter store (fun id _ => id != documentId collection entry.key entry.lang) h
  | clear collection => exact hfilter store _ h

/-- What holds of a store and is kept by writing and by filtering holds after any edits. -/
theorem editAll_induction
    (hput : ∀ store collection entry, motive store → motive (store.put collection entry).2)
    (hfilter : ∀ store keep, motive store →
      motive { store with documents := store.documents.filter keep })
    {store : Store} (edits : List Edit) (h : motive store) : motive (store.editAll edits) :=
  List.foldlRecOn (motive := motive) edits edit h fun _ hstore next _ =>
    edit_induction hput hfilter next hstore

/-- What holds of the empty store, and is kept by every write and every removal, holds of every
store that calls can lead to. -/
theorem afterAll_induction
    (hput : ∀ store collection entry, motive store → motive (store.put collection entry).2)
    (hfilter : ∀ store keep, motive store →
      motive { store with documents := store.documents.filter keep })
    {store : Store} (calls : List Call) (h : motive store) : motive (store.afterAll calls) :=
  List.foldlRecOn (motive := motive) calls after h fun store hstore call _ =>
    store.after_eq_editAll call ▸ editAll_induction hput hfilter call.edits hstore

end Induction

/-! ## What is found after an edit -/

/-- Writing a document changes what is found under its identifier, and nothing else. -/
theorem get?_put (store : Store) (collection : String) (entry : BatchEntry) (id : String) :
    (store.put collection entry).2.documents.get? id =
      if id = documentId collection entry.key entry.lang then
        some ⟨lowercase collection, (store.put collection entry).1⟩
      else store.documents.get? id :=
  SortedMap.get?_insert _ _ _ _

theorem get?_remove (store : Store) (collection key lang id : String) :
    (store.remove collection key lang).2.documents.get? id =
      if id = documentId collection key lang then none else store.documents.get? id :=
  SortedMap.get?_erase _ _ _

theorem get?_deleteCollection (store : Store) (collection id : String) :
    (store.deleteCollection collection).2.documents.get? id =
      (store.documents.get? id).filter fun stored => stored.collection != lowercase collection := by
  apply Option.ext
  intro stored
  rw [deleteCollection, SortedMap.get?_eq_some_iff, SortedMap.mem_filter, Option.filter_eq_some_iff,
    SortedMap.get?_eq_some_iff]

/-- An edit that spares a document leaves it as it is. -/
theorem get?_edit_of_spares {store : Store} {id : String} {stored : StoredDocument}
    (h : store.documents.get? id = some stored) {edit : Edit}
    (hspares : edit.Spares id stored.collection) :
    (store.edit edit).documents.get? id = some stored := by
  cases edit with
  | write collection entry =>
    have hid : id ≠ documentId collection entry.key entry.lang :=
      fun heq => hspares (congrArg some heq.symm)
    rw [Store.edit, get?_put, if_neg hid, h]
  | update collection entry =>
    have hid : id ≠ documentId collection entry.key entry.lang :=
      fun heq => hspares (congrArg some heq.symm)
    rw [Store.edit]
    split
    · rw [get?_put, if_neg hid, h]
    · exact h
  | remove collection entry =>
    have hid : id ≠ documentId collection entry.key entry.lang :=
      fun heq => hspares (congrArg some heq.symm)
    rw [Store.edit, get?_remove, if_neg hid, h]
  | clear collection =>
    have hkept : (stored.collection != lowercase collection) = true := bne_iff_ne.2 hspares
    rw [Store.edit, get?_deleteCollection, h, Option.filter_some, if_pos hkept]

/-- Edits that spare a document leave it as it is. -/
theorem get?_editAll_of_spares {store : Store} {id : String} {stored : StoredDocument}
    (h : store.documents.get? id = some stored) {edits : List Edit}
    (hspares : ∀ edit ∈ edits, edit.Spares id stored.collection) :
    (store.editAll edits).documents.get? id = some stored :=
  List.foldlRecOn (motive := fun store : Store => store.documents.get? id = some stored)
    edits Store.edit h fun _ hstored edit hedit => get?_edit_of_spares hstored (hspares edit hedit)

end Store

end DocBridge
