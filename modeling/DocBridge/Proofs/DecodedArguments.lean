import DocBridge.Proofs.Outcomes
import DocBridge.Tool.Call

/-!
# What is taken for arguments

Arguments are taken one after the other, and a call comes of them only if every one is there in its
form: a text that is not empty, or a list of objects of which each has a key.  What was taken tells
what was there, and what fails, fails because of an argument.
-/

namespace DocBridge

/-- The failure of an argument: it is not there, or not in its form. -/
inductive ArgumentFailure : BridgeError → Prop where
  | missing (name : String) : ArgumentFailure (.missingArgument name)
  | invalid (name reason : String) : ArgumentFailure (.invalidArgument name reason)

/-! ## Single arguments -/

namespace Arguments

variable {arguments : Arguments} {name : String}

/-- There is a text under a name, and it is not empty. -/
def HasText (arguments : Arguments) (name : String) : Prop :=
  ∃ text, arguments.get? name = some (.string text) ∧ text ≠ ""

/-- There is a list of objects under a name, and every one of them has a key. -/
def HasEntries (arguments : Arguments) (name : String) : Prop :=
  ∃ entries : List Arguments, arguments.get? name = some (.array (entries.map .object)) ∧
    ∀ entry ∈ entries, entry.HasText "key"

/-- Only a text that is there is read as one that is not empty. -/
theorem string_eq_iff {text : String} (hfilled : text ≠ "") :
    arguments.string name = text ↔ arguments.get? name = some (.string text) := by
  rw [string]
  cases arguments.get? name with
  | none => simpa using hfilled.symm
  | some json => cases json <;> simp [Json.string?, hfilled.symm]

/-- An argument has a text unless it is read as the empty one. -/
theorem hasText_iff : arguments.HasText name ↔ arguments.string name ≠ "" := by
  constructor
  · rintro ⟨text, htext, hfilled⟩
    rwa [(string_eq_iff hfilled).2 htext]
  · intro hfilled
    exact ⟨_, (string_eq_iff hfilled).1 rfl, hfilled⟩

theorem requiredString_eq_ok_iff {text : String} :
    arguments.requiredString name = .ok text ↔ arguments.string name = text ∧ text ≠ "" := by
  rw [requiredString]
  split <;> grind

theorem exists_requiredString_iff :
    (∃ text, arguments.requiredString name = .ok text) ↔ arguments.HasText name := by
  simp [requiredString_eq_ok_iff, hasText_iff]

theorem exists_requiredString_bind_iff {β : Type} {next : String → Except BridgeError β} {P : Prop}
    (hnext : ∀ text, (∃ value, next text = .ok value) ↔ P) :
    (∃ value, arguments.requiredString name >>= next = .ok value) ↔ arguments.HasText name ∧ P := by
  rw [exists_bind_iff hnext, exists_requiredString_iff]

theorem exists_requiredString_pure_iff {β : Type} {f : String → β} :
    (∃ value, (arguments.requiredString name >>= fun text => pure (f text)) = .ok value) ↔
      arguments.HasText name := by
  have hpure (text : String) :
      (∃ value, (pure (f text) : Except BridgeError β) = .ok value) ↔ True :=
    iff_true_intro ⟨f text, rfl⟩
  rw [exists_requiredString_bind_iff hpure, and_true]

theorem failsOnly_requiredString (arguments : Arguments) (name : String) :
    FailsOnly ArgumentFailure (arguments.requiredString name) := by
  rw [requiredString]
  split
  · exact .error (.missing name)
  · exact .ok _

/-- Items are read as documents if all of them are objects. -/
theorem entriesFrom_eq_ok_iff (index : Nat) {items : List Json} {entries : List Arguments} :
    entriesFrom name index items = .ok entries ↔ items = entries.map .object := by
  induction items generalizing index entries with
  | nil => cases entries <;> simp [entriesFrom]
  | cons item rest ih =>
    rw [entriesFrom]
    cases item with
    | object entry =>
      cases entries with
      | nil =>
        simp only [Json.members?]
        split <;> simp
      | cons first others =>
        have hrest : entriesFrom name (index + 1) rest = .ok others ↔ rest = others.map .object :=
          ih (index + 1)
        simp only [Json.members?]
        split <;> simp_all
    | _ => cases entries <;> simp [Json.members?]

theorem entries_eq_ok_iff {entries : List Arguments} :
    arguments.entries name = .ok entries ↔
      arguments.get? name = some (.array (entries.map .object)) := by
  rw [Arguments.entries]
  cases arguments.get? name with
  | none => simp
  | some json => cases json <;> simp [Json.items?, entriesFrom_eq_ok_iff]

theorem exists_entries_iff :
    (∃ entries, arguments.entries name = .ok entries ∧ ∀ entry ∈ entries, entry.string "key" ≠ "") ↔
      arguments.HasEntries name := by
  simp only [entries_eq_ok_iff, ← hasText_iff, HasEntries]

theorem failsOnly_entriesFrom (name : String) (index : Nat) (items : List Json) :
    FailsOnly ArgumentFailure (entriesFrom name index items) := by
  induction items generalizing index with
  | nil => exact .ok []
  | cons item rest ih =>
    rw [entriesFrom]
    split
    · exact .error (.invalid name _)
    · have hrest := ih (index + 1)
      split
      · rename_i failure hfailure
        exact .error (hrest failure hfailure)
      · exact .ok _

theorem failsOnly_entries (arguments : Arguments) (name : String) :
    FailsOnly ArgumentFailure (arguments.entries name) := by
  rw [entries]
  split
  · exact .error (.invalid name _)
  · exact failsOnly_entriesFrom name 0 _

end Arguments

/-! ## Batches -/

open Arguments

theorem validateBatch_eq_ok_iff {collection : String} {keys : List String} :
    validateBatch collection keys = .ok () ↔ collection ≠ "" ∧ ∀ key ∈ keys, key ≠ "" := by
  have hindex : keys.findIdx? (· == "") = none ↔ ∀ key ∈ keys, key ≠ "" := by
    simp [List.findIdx?_eq_none_iff]
  rw [validateBatch, ← hindex]
  split
  · simp [*]
  · cases keys.findIdx? (· == "") <;> simp [*]

/-- A batch of entries that are taken after the collection. -/
def takeBatch {δ β : Type} (arguments : Arguments) (entries : Except BridgeError (List δ))
    (key : δ → String) (batch : String → List δ → β) : Except BridgeError β := do
  let collection ← arguments.requiredString "collection"
  let documents ← entries
  match validateBatch collection (documents.map key) with
  | .ok () => return batch collection documents
  | .error failure => throw (.ofBatchError failure)

section TakenBatches

variable {δ β : Type} {arguments : Arguments} {key : δ → String} {batch : String → List δ → β}

/-- A batch is taken if its collection is there, its documents can be read, and every one of them
has a key. -/
theorem takeBatch_eq_ok_iff {entries : Except BridgeError (List δ)} {value : β} :
    takeBatch arguments entries key batch = .ok value ↔
      ∃ collection documents, arguments.requiredString "collection" = .ok collection ∧
        entries = .ok documents ∧ (∀ document ∈ documents, key document ≠ "") ∧
        batch collection documents = value := by
  simp only [takeBatch, bind_eq_ok_iff]
  constructor
  · rintro ⟨collection, hcollection, documents, hdocuments, hchecked⟩
    split at hchecked
    · rename_i hvalid
      have hkeys := (validateBatch_eq_ok_iff.1 hvalid).2
      exact ⟨collection, documents, hcollection, hdocuments,
        fun document hdocument => hkeys _ (List.mem_map_of_mem hdocument),
        pure_eq_ok_iff.1 hchecked⟩
    · cases hchecked
  · rintro ⟨collection, documents, hcollection, hdocuments, hkeys, hvalue⟩
    have hvalid : validateBatch collection (documents.map key) = .ok () :=
      validateBatch_eq_ok_iff.2
        ⟨(requiredString_eq_ok_iff.1 hcollection).2, List.forall_mem_map.2 hkeys⟩
    exact ⟨collection, hcollection, documents, hdocuments, by rw [hvalid, hvalue]; rfl⟩

/-- Whether a batch is taken depends on the arguments alone, not on what is made of it. -/
theorem exists_takeBatch_iff {read : Arguments → δ}
    (hkey : ∀ entry, key (read entry) = entry.string "key") :
    (∃ value, takeBatch arguments ((arguments.entries "documents").map (·.map read)) key batch =
        .ok value) ↔
      arguments.HasText "collection" ∧ arguments.HasEntries "documents" := by
  rw [← exists_requiredString_iff, ← exists_entries_iff]
  simp only [takeBatch_eq_ok_iff, map_eq_ok_iff]
  constructor
  · rintro ⟨_, collection, _, hcollection, ⟨entries, hentries, rfl⟩, hkeys, -⟩
    exact ⟨⟨collection, hcollection⟩, entries, hentries, fun entry hentry =>
      hkey entry ▸ hkeys _ (List.mem_map_of_mem hentry)⟩
  · rintro ⟨⟨collection, hcollection⟩, entries, hentries, hkeys⟩
    exact ⟨_, collection, _, hcollection, ⟨entries, hentries, rfl⟩,
      List.forall_mem_map.2 fun entry hentry => hkey entry ▸ hkeys entry hentry, rfl⟩

theorem failsOnly_takeBatch {entries : Except BridgeError (List δ)}
    (hentries : FailsOnly ArgumentFailure entries) :
    FailsOnly ArgumentFailure (takeBatch arguments entries key batch) := by
  refine (arguments.failsOnly_requiredString "collection").bind fun collection => ?_
  refine hentries.bind fun documents => ?_
  split
  · exact .ok _
  · exact .error (.invalid "documents" _)

end TakenBatches

namespace ToolCall

variable (arguments : Arguments)

theorem writeBatch_eq : writeBatch arguments =
    takeBatch arguments (arguments.batchEntries "documents") (·.key) WriteBatch.mk := rfl

theorem deletions_eq : deletions arguments =
    takeBatch arguments (arguments.documentRefs "documents") (·.key) DeleteBatch.mk := rfl

theorem failsOnly_ofArguments (tool : Tool) :
    FailsOnly ArgumentFailure (ofArguments tool arguments) := by
  have hstring := arguments.failsOnly_requiredString
  have hentries := arguments.failsOnly_entries "documents"
  cases tool with
  | addDocument =>
    exact (hstring "collection").bind fun _ => (hstring "key").bind fun _ =>
      (hstring "lang").bind fun _ => (hstring "content_md").bind fun _ => .ok _
  | searchDocuments => exact (hstring "collection").bind fun _ => .ok _
  | deleteDocument =>
    exact (hstring "collection").bind fun _ => (hstring "key").bind fun _ =>
      (hstring "lang").bind fun _ => .ok _
  | deleteCollection => exact (hstring "collection").bind fun _ => .ok _
  | addBatch => exact (failsOnly_takeBatch (hentries.map _)).map _
  | updateBatch => exact (failsOnly_takeBatch (hentries.map _)).map _
  | deleteBatch => exact (failsOnly_takeBatch (hentries.map _)).map _
  | getStats => exact .ok _
  | exportDocuments => exact (hstring "collection").bind fun _ => .ok _
  | createBackup => exact (hstring "to").bind fun _ => .ok _
  | restoreBackup => exact (hstring "from").bind fun _ => .ok _
  | truncateRevisions => exact .ok _

end ToolCall

end DocBridge
