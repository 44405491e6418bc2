import DocBridge.Proofs.DecodedArguments
import Mathlib.Order.Bounds.Basic

/-!
# The documents of a batch

The documents of a batch are looked through twice, once for something that is no object and once for
an entry without a key, and each time the first offender is named.  If there is none, every document
is read from its own place in the list, and no place is left out.
-/

namespace DocBridge

/-! ## First places -/

section FirstPlaces

variable {α : Type} {P : α → Prop} {place : Nat}

/-- The first place of a list where something has a property. -/
def FirstAt (P : α → Prop) (items : List α) (place : Nat) : Prop :=
  IsLeast {place | ∃ item, items[place]? = some item ∧ P item} place

theorem not_firstAt_nil : ¬ FirstAt P [] place := by
  rintro ⟨⟨item, hitem, -⟩, -⟩
  cases hitem

theorem firstAt_cons_of_pos {item : α} {rest : List α} (h : P item) :
    FirstAt P (item :: rest) place ↔ place = 0 := by
  have hzero : FirstAt P (item :: rest) 0 := ⟨⟨item, rfl, h⟩, fun _ _ => Nat.zero_le _⟩
  constructor
  · intro hplace
    exact hplace.unique hzero
  · rintro rfl
    exact hzero

theorem firstAt_cons_of_neg {item : α} {rest : List α} (h : ¬ P item) :
    FirstAt P (item :: rest) place ↔ ∃ later, FirstAt P rest later ∧ place = later + 1 := by
  constructor
  · rintro ⟨⟨found, hfound, hP⟩, hleast⟩
    cases place with
    | zero =>
      obtain rfl := Option.some.inj hfound
      exact absurd hP h
    | succ later =>
      refine ⟨later, ⟨⟨found, hfound, hP⟩, fun other hother => ?_⟩, rfl⟩
      exact Nat.le_of_succ_le_succ (hleast (a := other + 1) hother)
  · rintro ⟨later, ⟨hlater, hleast⟩, rfl⟩
    refine ⟨hlater, ?_⟩
    rintro (_ | other) ⟨found, hfound, hP⟩
    · obtain rfl := Option.some.inj hfound
      exact absurd hP h
    · exact Nat.succ_le_succ (hleast ⟨found, hfound, hP⟩)

/-- The index that a search for a test finds is the first at which the property holds. -/
theorem findIdx?_eq_some_iff_firstAt {items : List α} {test : α → Bool}
    (h : ∀ item, test item = true ↔ P item) :
    items.findIdx? test = some place ↔ FirstAt P items place := by
  induction items generalizing place with
  | nil => exact iff_of_false nofun not_firstAt_nil
  | cons item rest ih =>
    rw [List.findIdx?_cons]
    by_cases hitem : P item
    · rw [if_pos ((h item).2 hitem), firstAt_cons_of_pos hitem, Option.some.injEq, eq_comm]
    · rw [if_neg (mt (h item).1 hitem), firstAt_cons_of_neg hitem, Option.map_eq_some_iff]
      simp only [ih, eq_comm]

theorem firstAt_map {β : Type} {f : β → α} {items : List β} :
    FirstAt P (items.map f) place ↔ FirstAt (fun item => P (f item)) items place := by
  simp only [FirstAt, List.getElem?_map, Option.map_eq_some_iff, exists_exists_and_eq_and]

end FirstPlaces

/-! ## Faults -/

def Json.IsObject (json : Json) : Prop := ∃ members, json = .object members

/-- What is wrong with the documents of a batch: they are no list, or the first thing among them
that is no object, or, where all are objects, the first that has no key. -/
inductive DocumentsFault : Option Json → String → Prop where
  | notList {documents : Option Json} (h : ∀ items, documents ≠ some (.array items)) :
    DocumentsFault documents "must be an array"
  | notObject {items : List Json} {place : Nat} (h : FirstAt (¬ Json.IsObject ·) items place) :
    DocumentsFault (some (.array items))
      ("invalid document at index " ++ toString place ++ ": not an object")
  | missingKey {entries : List Arguments} {place : Nat}
      (h : FirstAt (¬ Arguments.HasText · "key") entries place) :
    DocumentsFault (some (.array (entries.map .object)))
      ("invalid document at index " ++ toString place ++ ": missing key")

namespace Arguments

variable {arguments : Arguments} {name : String}

theorem entriesFrom_cons_of_object (index : Nat) (entry : Arguments) (rest : List Json) :
    entriesFrom name index (.object entry :: rest) =
      (entriesFrom name (index + 1) rest).map (entry :: ·) := by
  simp only [entriesFrom, Json.members?]
  cases entriesFrom name (index + 1) rest <;> rfl

theorem entriesFrom_cons_of_not_object (index : Nat) {item : Json} (h : ¬ item.IsObject)
    (rest : List Json) :
    entriesFrom name index (item :: rest) = .error (.invalidArgument name
      ("invalid document at index " ++ toString index ++ ": not an object")) := by
  cases item with
  | object entry => exact absurd ⟨entry, rfl⟩ h
  | _ => rfl

/-- The first thing that is no object is named by its place, counted on from that of the list. -/
theorem entriesFrom_eq_error_iff {index : Nat} {items : List Json} {failure : BridgeError} :
    entriesFrom name index items = .error failure ↔
      ∃ place, FirstAt (¬ Json.IsObject ·) items place ∧ .invalidArgument name
        ("invalid document at index " ++ toString (index + place) ++ ": not an object") =
          failure := by
  induction items generalizing index with
  | nil => simp [entriesFrom, not_firstAt_nil]
  | cons item rest ih =>
    by_cases hitem : item.IsObject
    · obtain ⟨entry, rfl⟩ := hitem
      have hobject : ¬ ¬ Json.IsObject (.object entry) := not_not_intro ⟨entry, rfl⟩
      rw [entriesFrom_cons_of_object, map_eq_error_iff, ih]
      simp only [firstAt_cons_of_neg (P := (¬ Json.IsObject ·)) hobject]
      constructor
      · rintro ⟨later, hlater, hfailure⟩
        exact ⟨later + 1, ⟨later, hlater, rfl⟩, by rwa [Nat.add_right_comm] at hfailure⟩
      · rintro ⟨_, ⟨later, hlater, rfl⟩, hfailure⟩
        exact ⟨later, hlater, by rwa [Nat.add_right_comm]⟩
    · rw [entriesFrom_cons_of_not_object index hitem]
      simp only [firstAt_cons_of_pos (P := (¬ Json.IsObject ·)) hitem, exists_eq_left,
        Nat.add_zero, Except.error.injEq]

/-- A batch is unreadable if it is no array, or for the first of its items that is no object. -/
theorem entries_eq_error_iff {failure : BridgeError} :
    arguments.entries name = .error failure ↔
      (∀ items, arguments.get? name ≠ some (.array items)) ∧
          .invalidArgument name "must be an array" = failure ∨
        ∃ items place, arguments.get? name = some (.array items) ∧
          FirstAt (¬ Json.IsObject ·) items place ∧ .invalidArgument name
            ("invalid document at index " ++ toString place ++ ": not an object") = failure := by
  rw [Arguments.entries]
  cases arguments.get? name with
  | none => simp
  | some json => cases json <;> simp [Json.items?, entriesFrom_eq_error_iff]

end Arguments

/-! ## Batches -/

def ifValid {β : Type} (collection : String) (keys : List String) (value : β) :
    Except BridgeError β :=
  match validateBatch collection keys with
  | .ok () => return value
  | .error failure => throw (.ofBatchError failure)

theorem message_missingKey (place : Nat) : (BatchError.invalidEntry place "missing key").message =
    "invalid document at index " ++ toString place ++ ": missing key" :=
  String.append_assoc

/-- A batch of a collection fails for the first of its keys that is empty. -/
theorem ifValid_eq_error_iff {β : Type} {collection : String} {keys : List String} {value : β}
    {failure : BridgeError} (hcollection : collection ≠ "") :
    ifValid collection keys value = .error failure ↔
      ∃ place, FirstAt (· = "") keys place ∧ .invalidArgument "documents"
        ("invalid document at index " ++ toString place ++ ": missing key") = failure := by
  have hfind (place : Nat) : FirstAt (· = "") keys place ↔ keys.findIdx? (· == "") = some place :=
    (findIdx?_eq_some_iff_firstAt fun key => beq_iff_eq).symm
  simp only [ifValid, validateBatch, if_neg hcollection, hfind]
  cases keys.findIdx? (· == "") with
  | none =>
    constructor
    · intro h
      cases h
    · rintro ⟨_, h, -⟩
      cases h
  | some place =>
    simp only [Option.some.injEq, exists_eq_left', ← message_missingKey]
    exact ⟨fun h => Except.error.inj h, fun h => congrArg Except.error h⟩

section TakenBatches

variable {δ β : Type} {arguments : Arguments} {key : δ → String} {batch : String → List δ → β}
  {collection : String} {failure : BridgeError}

/-- Once the collection is read, taking a batch is reading its documents and then validating it. -/
theorem takeBatch_eq {entries : Except BridgeError (List δ)}
    (hcollection : arguments.requiredString "collection" = .ok collection) :
    takeBatch arguments entries key batch = entries >>= fun documents =>
      ifValid collection (documents.map key) (batch collection documents) := by
  rw [takeBatch, hcollection]
  rfl

/-- A batch with a collection fails because of its documents. -/
theorem takeBatch_eq_error_iff {read : Arguments → δ}
    (hcollection : arguments.requiredString "collection" = .ok collection)
    (hkey : ∀ entry, key (read entry) = entry.string "key") :
    takeBatch arguments ((arguments.entries "documents").map (·.map read)) key batch =
        .error failure ↔
      ∃ reason, DocumentsFault (arguments.get? "documents") reason ∧
        .invalidArgument "documents" reason = failure := by
  have hfilled : collection ≠ "" := (Arguments.requiredString_eq_ok_iff.1 hcollection).2
  have hkeys (entries : List Arguments) (place : Nat) :
      FirstAt (· = "") ((entries.map read).map key) place ↔
        FirstAt (¬ Arguments.HasText · "key") entries place := by
    simp only [firstAt_map, hkey, Arguments.hasText_iff, not_not]
  rw [takeBatch_eq hcollection, bind_eq_error_iff, map_eq_error_iff, Arguments.entries_eq_error_iff]
  simp only [map_eq_ok_iff, Arguments.entries_eq_ok_iff, ifValid_eq_error_iff hfilled]
  -- The keys are looked at when all documents have been found to be objects, in any place.
  constructor
  · rintro ((⟨hlist, rfl⟩ | ⟨items, place, hitems, hplace, rfl⟩) |
      ⟨_, ⟨entries, hentries, rfl⟩, place, hplace, rfl⟩)
    · exact ⟨_, .notList hlist, rfl⟩
    · exact ⟨_, hitems ▸ .notObject hplace, rfl⟩
    · exact ⟨_, hentries ▸ .missingKey ((hkeys entries place).1 hplace), rfl⟩
  · rintro ⟨reason, hfault, rfl⟩
    generalize arguments.get? "documents" = documents at hfault ⊢
    cases hfault with
    | notList hlist => exact .inl (.inl ⟨hlist, rfl⟩)
    | notObject hplace => exact .inl (.inr ⟨_, _, rfl, hplace, rfl⟩)
    | missingKey hplace => exact .inr ⟨_, ⟨_, rfl, rfl⟩, _, (hkeys _ _).2 hplace, rfl⟩

/-- A batch with a collection is taken if all of its documents are objects with keys. -/
theorem takeBatch_eq_ok_iff_of_collection {read : Arguments → δ} {value : β}
    (hcollection : arguments.requiredString "collection" = .ok collection)
    (hkey : ∀ entry, key (read entry) = entry.string "key") :
    takeBatch arguments ((arguments.entries "documents").map (·.map read)) key batch = .ok value ↔
      ∃ entries : List Arguments, arguments.get? "documents" = some (.array (entries.map .object)) ∧
        (∀ entry ∈ entries, entry.HasText "key") ∧ batch collection (entries.map read) = value := by
  simp only [takeBatch_eq_ok_iff, map_eq_ok_iff, Arguments.entries_eq_ok_iff, hcollection,
    Arguments.hasText_iff]
  constructor
  · rintro ⟨_, _, hsame, ⟨entries, hentries, rfl⟩, hkeys, rfl⟩
    obtain rfl := Except.ok.inj hsame
    exact ⟨entries, hentries, fun entry hentry => hkey entry ▸ hkeys _ (List.mem_map_of_mem hentry),
      rfl⟩
  · rintro ⟨entries, hentries, hkeys, rfl⟩
    exact ⟨collection, _, rfl, ⟨entries, hentries, rfl⟩,
      List.forall_mem_map.2 fun entry hentry => hkey entry ▸ hkeys entry hentry, rfl⟩

end TakenBatches

namespace ToolCall

open Arguments

/-- The tools that take a list of documents, with the call that comes of a collection and the
entries of the list. -/
inductive TakesDocuments : Tool → (String → List Arguments → ToolCall) → Prop where
  | addBatch : TakesDocuments .addBatch fun collection entries =>
    .addBatch ⟨collection, entries.map batchEntry⟩
  | updateBatch : TakesDocuments .updateBatch fun collection entries =>
    .updateBatch ⟨collection, entries.map batchEntry⟩
  | deleteBatch : TakesDocuments .deleteBatch fun collection entries =>
    .deleteBatch ⟨collection, entries.map documentRef⟩

section Decoding

variable {tool : Tool} {call : String → List Arguments → ToolCall} {arguments : Arguments}
  {collection : String}

/-- All tools that take documents fail on the same documents, with the same reason. -/
theorem ofArguments_eq_error_iff_of_takesDocuments (htool : TakesDocuments tool call)
    (hcollection : arguments.requiredString "collection" = .ok collection)
    {failure : BridgeError} :
    ofArguments tool arguments = .error failure ↔
      ∃ reason, DocumentsFault (arguments.get? "documents") reason ∧
        .invalidArgument "documents" reason = failure := by
  cases htool with
  | addBatch | updateBatch | deleteBatch =>
    exact map_eq_error_iff.trans (takeBatch_eq_error_iff hcollection fun _ => rfl)

theorem ofArguments_eq_ok_iff_of_takesDocuments (htool : TakesDocuments tool call)
    (hcollection : arguments.requiredString "collection" = .ok collection) {toolCall : ToolCall} :
    ofArguments tool arguments = .ok toolCall ↔
      ∃ entries : List Arguments, arguments.get? "documents" = some (.array (entries.map .object)) ∧
        (∀ entry ∈ entries, entry.HasText "key") ∧ call collection entries = toolCall := by
  cases htool with
  | addBatch | updateBatch | deleteBatch =>
    refine map_eq_ok_iff.trans ?_
    simp only [writeBatch_eq, deletions_eq, batchEntries, documentRefs]
    constructor
    · rintro ⟨_, hbatch, rfl⟩
      obtain ⟨entries, hentries, hkeys, rfl⟩ :=
        (takeBatch_eq_ok_iff_of_collection hcollection fun _ => rfl).1 hbatch
      exact ⟨entries, hentries, hkeys, rfl⟩
    · rintro ⟨entries, hentries, hkeys, rfl⟩
      exact ⟨_, (takeBatch_eq_ok_iff_of_collection hcollection fun _ => rfl).2
        ⟨entries, hentries, hkeys, rfl⟩, rfl⟩

/-- With a collection, the documents of a batch decide alone what comes of it.  It fails exactly for
their first fault, by the name of the argument and the place of the offender.  If there is none,
there is a call, with an entry for every document, in their order, that is read from this one. -/
theorem decode_names_first_bad_document (htool : TakesDocuments tool call)
    (hcollection : arguments.get? "collection" = some (.string collection))
    (hfilled : collection ≠ "") :
    (∀ failure, decode tool.name arguments = .error failure ↔
      ∃ reason, DocumentsFault (arguments.get? "documents") reason ∧
        .invalidArgument "documents" reason = failure) ∧
    ∀ toolCall, decode tool.name arguments = .ok toolCall ↔
      ∃ entries : List Arguments, arguments.get? "documents" = some (.array (entries.map .object)) ∧
        (∀ entry ∈ entries, entry.HasText "key") ∧ call collection entries = toolCall := by
  have htext : arguments.requiredString "collection" = .ok collection :=
    requiredString_eq_ok_iff.2 ⟨(string_eq_iff hfilled).2 hcollection, hfilled⟩
  rw [decode, Tool.ofName?_name]
  exact ⟨fun _ => ofArguments_eq_error_iff_of_takesDocuments htool htext,
    fun _ => ofArguments_eq_ok_iff_of_takesDocuments htool htext⟩

end Decoding

/-- A batch whose second document has no key and whose third is no object. -/
def untidyBatch : Arguments :=
  [("collection", .string "blog"),
    ("documents", .array [.object [("key", .string "intro")], .object [("lang", .string "en")],
      .string "outro", .null])]

/-- What is no object is looked for first, so that the missing key is not what is named. -/
theorem decode_untidyBatch :
    untidyBatch.get? "collection" = some (.string "blog") ∧ "blog" ≠ "" ∧
      decode "delete_documents_batch" untidyBatch =
        .error (.invalidArgument "documents" "invalid document at index 2: not an object") := by
  have hplace : FirstAt (¬ Json.IsObject ·) [.object [("key", .string "intro")],
      .object [("lang", .string "en")], .string "outro", .null] 2 := by
    have hobject (members : Json.Members) : ¬ ¬ Json.IsObject (.object members) :=
      not_not_intro ⟨members, rfl⟩
    have hstring : ¬ Json.IsObject (.string "outro") := nofun
    refine (firstAt_cons_of_neg (P := (¬ Json.IsObject ·)) (hobject _)).2 ⟨1, ?_, rfl⟩
    refine (firstAt_cons_of_neg (P := (¬ Json.IsObject ·)) (hobject _)).2 ⟨0, ?_, rfl⟩
    exact (firstAt_cons_of_pos (P := (¬ Json.IsObject ·)) hstring).2 rfl
  exact ⟨rfl, by decide,
    ((decode_names_first_bad_document .deleteBatch rfl (by decide)).1 _).2
      ⟨_, .notObject hplace, rfl⟩⟩

end ToolCall

end DocBridge
