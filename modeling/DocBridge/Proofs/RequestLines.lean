import DocBridge.Proofs.LineLocality
import DocBridge.Proofs.Rereading

/-!
# Lines that are requests

A line is served if it is a request.  That takes a JSON object with a method, or else a JSON array
of what the object would hold in the order of its fields: the reader of a record takes both.  Any
other line is passed over, and serving goes on as if it were not there.
-/

namespace DocBridge.Json

/-! ## What is read is well formed -/

namespace Schema

variable {schema : Schema} {room : Nat} {closed : Bool}

def ReadsWhole (room : Nat) : Prop :=
  ∀ (schema : Schema) (outline : Outline) (json : Json),
    schema.read room outline = .ok json → outline.wellFormed = true

theorem wellFormed_of_readItems (hwhole : ReadsWhole room) {items : List Outline}
    {values : List Json} (h : schema.readItems room closed items = .ok values) :
    (Outline.array items closed).wellFormed = true := by
  induction items generalizing values with
  | nil =>
    rw [readItems] at h
    split at h <;> cases h
    assumption
  | cons item rest ih =>
    obtain ⟨value, others, hvalue, hothers, -⟩ := exists_of_readItems_cons h
    have hitem : item.wellFormed = true := hwhole _ _ _ hvalue
    simpa [Outline.wellFormed, Outline.wellFormedItems, hitem] using ih hothers

theorem wellFormed_of_readFields (hwhole : ReadsWhole room)
    {fields : List (String × Presence × Schema)} {items : List Outline} {members : Members}
    (h : readFields fields room closed items = .ok members) :
    (Outline.array items closed).wellFormed = true := by
  induction items generalizing fields members with
  | nil =>
    rw [readFields] at h
    split at h
    · cases h
    · rename_i hclosed
      simpa [Outline.wellFormed, Outline.wellFormedItems] using hclosed
  | cons item rest ih =>
    cases fields with
    | nil => cases h
    | cons field others =>
      obtain ⟨value, behind, hvalue, hbehind, -⟩ := exists_of_readFields_cons h
      have hitem : item.wellFormed = true := hwhole _ _ _ hvalue
      simpa [Outline.wellFormed, Outline.wellFormedItems, hitem] using ih hbehind

theorem wellFormed_of_readMap (hwhole : ReadsWhole room)
    {outlines : List (List TextUnit × Outline)} {found members : Members}
    (h : schema.readMap room closed found outlines = .ok members) :
    (Outline.object outlines closed).wellFormed = true := by
  induction outlines generalizing found with
  | nil =>
    rw [readMap] at h
    split at h <;> cases h
    assumption
  | cons outline rest ih =>
    obtain ⟨name, value, -, hvalue, hrest⟩ := exists_of_readMap_cons h
    have houtline : outline.2.wellFormed = true := hwhole _ _ _ hvalue
    simpa [Outline.wellFormed, Outline.wellFormedMembers, houtline] using ih hrest

theorem wellFormed_of_readMembers (hwhole : ReadsWhole room)
    {fields : List (String × Presence × Schema)} {outlines : List (List TextUnit × Outline)}
    {found members : Members} (h : readMembers fields room closed found outlines = .ok members) :
    (Outline.object outlines closed).wellFormed = true := by
  induction outlines generalizing found with
  | nil =>
    rw [readMembers] at h
    split at h <;> cases h
    assumption
  | cons outline rest ih =>
    have hbehind {found : Members} (hread : readMembers fields room closed found rest = .ok members)
        (houtline : outline.2.wellFormed = true) :
        (Outline.object (outline :: rest) closed).wellFormed = true := by
      simpa [Outline.wellFormed, Outline.wellFormedMembers, houtline] using ih hread
    obtain ⟨name, -, ⟨-, houtline, hrest⟩ | ⟨presence, schema, value, -, -, hvalue, hrest⟩⟩ :=
      exists_of_readMembers_cons h
    · exact hbehind hrest houtline
    · exact hbehind hrest (hwhole _ _ _ hvalue)

theorem wellFormed_of_readChoice {names : List String}
    {outlines : List (List TextUnit × Outline)} {json : Json}
    (h : readChoice names closed outlines = .ok json) :
    (Outline.object outlines closed).wellFormed = true := by
  unfold readChoice at h
  split at h
  · split at h
    · cases h
    · split at h
      · cases h
      · rename_i hclosed
        simpa [Outline.wellFormed, Outline.wellFormedMembers] using hclosed
  · cases h

/-- Only a text that is JSON throughout is read. -/
theorem readsWhole (room : Nat) : ReadsWhole room := by
  -- What stands in a container is read with less room, and without room no container is read.
  induction room using Nat.strongRecOn with
  | ind room ih =>
    intro schema outline json h
    cases outline with
    | broken => cases h
    | null => rfl
    | bool value => rfl
    | number digits => rfl
    | string units => rfl
    | array items closed =>
      cases room with
      | zero =>
        rw [read] at h
        split at h <;> cases h
      | succ inner =>
        have hwhole : ReadsWhole inner := ih inner (Nat.lt_succ_self inner)
        rw [read] at h
        simp only [Nat.succ_ne_zero, if_false, Nat.add_sub_cancel] at h
        split at h
        · obtain ⟨values, hread, -⟩ := map_eq_ok_iff.1 h
          exact wellFormed_of_readItems hwhole hread
        · obtain ⟨values, hread, -⟩ := map_eq_ok_iff.1 h
          exact wellFormed_of_readItems hwhole hread
        · obtain ⟨members, hread, -⟩ := map_eq_ok_iff.1 h
          exact wellFormed_of_readFields hwhole hread
        · cases h
    | object members closed =>
      cases room with
      | zero =>
        rw [read] at h
        split at h <;> cases h
      | succ inner =>
        have hwhole : ReadsWhole inner := ih inner (Nat.lt_succ_self inner)
        rw [read] at h
        simp only [Nat.succ_ne_zero, if_false, Nat.add_sub_cancel] at h
        split at h
        · obtain ⟨found, hread, -⟩ := map_eq_ok_iff.1 h
          exact wellFormed_of_readMap hwhole hread
        · obtain ⟨found, hread, -⟩ := map_eq_ok_iff.1 h
          exact wellFormed_of_readMap hwhole hread
        · obtain ⟨found, hread, -⟩ := bind_eq_ok_iff.1 h
          exact wellFormed_of_readMembers hwhole hread
        · exact wellFormed_of_readChoice h
        · cases h

/-! ## Fields that were read -/

variable {fields : List (String × Presence × Schema)}

/-- One field more is read alike with its name and without, if the fields behind it are. -/
theorem bind_readMembers_eq_map_readFields {known : List (String × Presence × Schema)}
    {name : String} {presence : Presence} {item : Outline} {found : Members}
    {named : List (List TextUnit × Outline)} {rest : List Outline}
    {collected : Members → Except Fault Json} {listed : Members → Json}
    (hfield : known.lookup name = some (presence, schema)) (hnew : found.lookup name = none)
    (hrest : ∀ value,
      (readMembers known room closed ((name, value) :: found) named).bind collected =
        (readFields fields room closed rest).map fun members => listed ((name, value) :: members)) :
    (readMembers known room closed found ((Outline.textOf name, item) :: named)).bind collected =
      (readFields ((name, presence, schema) :: fields) room closed (item :: rest)).map listed := by
  rw [readMembers, readText_textOf, readFields_cons]
  simp only [hfield, hnew, Option.isSome_none, Bool.false_eq_true, if_false]
  cases schema.read room item with
  | error fault => rfl
  | ok value =>
    apply (hrest value).trans
    cases readFields fields room closed rest <;> rfl

/-- A required field is there if the members can be collected. -/
theorem isSome_lookup_of_collect {found : Members} {json : Json}
    (h : collect fields found = .ok json) {name : String}
    (hfield : (name, .required, schema) ∈ fields) : (found.lookup name).isSome = true := by
  rw [collect] at h
  split at h
  · rename_i hall
    simpa using List.all_eq_true.1 hall _ hfield
  · cases h

theorem exists_of_read_string {outline : Outline} {json : Json}
    (h : Schema.string.read room outline = .ok json) :
    ∃ units text, outline = .string units ∧ readText units = .ok text := by
  cases outline with
  | string units =>
    rw [read] at h
    simp only [core, readString] at h
    split at h
    · cases h
    · rename_i text htext
      exact ⟨units, text, rfl, htext⟩
  | number digits =>
    rw [read] at h
    simp only [core, readNumber] at h
    split at h <;> cases h
  | _ => cases h

end Schema

end DocBridge.Json

namespace DocBridge

open Json

variable {σ : Type}

/-! ## The shapes of a request -/

def IsObjectWithText (name : String) (bytes : Bytes) : Prop :=
  ∃ members units spelled text,
    Outline.ofBytes bytes = ⟨.object members true, false⟩ ∧
      (Outline.object members true).wellFormed = true ∧
      (units, .string spelled) ∈ members ∧
      readText units = .ok name ∧ readText spelled = .ok text

/-- The fields of a request in their order, without their names. -/
def requestArray (version id method : Outline) (params : Option Outline) : Outline :=
  .array ([version, id, method] ++ params.toList) true

def requestObject (version id method : Outline) (params : Option Outline) : Outline :=
  .object ([(Outline.textOf "jsonrpc", version), (Outline.textOf "id", id),
    (Outline.textOf "method", method)] ++ (params.map (Outline.textOf "params", ·)).toList) true

/-- A text that is a JSON array of a version, an id and a method, and behind these of the parameters
at most. -/
def IsRequestArray (bytes : Bytes) : Prop :=
  ∃ version id method params,
    Outline.ofBytes bytes = ⟨requestArray (.string version) id (.string method) params, false⟩ ∧
      (requestArray (.string version) id (.string method) params).wellFormed = true

/-- An object is read as a request only if it has a method. -/
theorem exists_method_of_read {members : List (List TextUnit × Outline)} {closed : Bool}
    {json : Json}
    (h : (Codec.schema RpcRequest).read maxDepth (.object members closed) = .ok json) :
    ∃ units spelled text, (units, .string spelled) ∈ members ∧
      readText units = .ok "method" ∧ readText spelled = .ok text := by
  obtain ⟨found, hread, hcollect⟩ := bind_eq_ok_iff.1 h
  have hmethod : (found.lookup "method").isSome = true :=
    Schema.isSome_lookup_of_collect hcollect
      (List.mem_cons_of_mem _ (List.mem_cons_of_mem _ List.mem_cons_self))
  obtain ⟨value, hvalue⟩ := Option.isSome_iff_exists.1 hmethod
  obtain ⟨units, outline, presence, schema, hmem, hunits, hfield, houtline⟩ :=
    (Schema.exists_of_readMembers hread _ (SortedMap.mem_of_lookup hvalue)).resolve_left
      List.not_mem_nil
  have hstring : schema = Codec.schema String := by
    simp [Json.optional, required] at hfield
    exact hfield.2
  rw [hstring] at houtline
  obtain ⟨spelled, text, rfl, htext⟩ := Schema.exists_of_read_string houtline
  exact ⟨units, spelled, text, hmem, hunits, htext⟩

/-- An array is read as a request only if it has the fields of one, in their order. -/
theorem exists_fields_of_read {items : List Outline} {json : Json}
    (h : (Codec.schema RpcRequest).read maxDepth (.array items true) = .ok json) :
    ∃ version id method params,
      Outline.array items true = requestArray (.string version) id (.string method) params := by
  obtain ⟨members, hitems, -⟩ := map_eq_ok_iff.1 h
  cases items with
  | nil => cases hitems
  | cons first items =>
    obtain ⟨_, _, hfirst, hbehindVersion, -⟩ := Schema.exists_of_readFields_cons hitems
    cases items with
    | nil => cases hbehindVersion
    | cons id items =>
      obtain ⟨_, _, -, hbehindId, -⟩ := Schema.exists_of_readFields_cons hbehindVersion
      cases items with
      | nil => cases hbehindId
      | cons third items =>
        obtain ⟨_, _, hthird, hbehindMethod, -⟩ := Schema.exists_of_readFields_cons hbehindId
        obtain ⟨version, _, rfl, -⟩ := Schema.exists_of_read_string hfirst
        obtain ⟨method, _, rfl, -⟩ := Schema.exists_of_read_string hthird
        cases items with
        | nil => exact ⟨version, id, method, none, rfl⟩
        | cons params items =>
          obtain ⟨_, _, -, hbehindParams, -⟩ := Schema.exists_of_readFields_cons hbehindMethod
          cases items with
          | nil => exact ⟨version, id, method, some params, rfl⟩
          | cons item rest => cases hbehindParams

/-- Only an object with a method, or the array of the fields of one, is a request. -/
theorem shape_of_decode {bytes : Bytes} {request : RpcRequest}
    (h : decode RpcRequest bytes = .ok request) :
    IsObjectWithText "method" bytes ∨ IsRequestArray bytes := by
  obtain ⟨htrailing, json, hread, -⟩ := exists_of_decode h
  have hwhole := Schema.readsWhole maxDepth _ _ _ hread
  have hbytes : Outline.ofBytes bytes = ⟨(Outline.ofBytes bytes).value, false⟩ := by
    rw [← htrailing]
  rcases Schema.container_of_read_record hread with ⟨items, closed, hvalue⟩ |
    ⟨members, closed, hvalue⟩
  · rw [hvalue] at hread hwhole hbytes
    obtain rfl : closed = true := (Bool.and_eq_true_iff.1 hwhole).2
    obtain ⟨version, id, method, params, hfields⟩ := exists_fields_of_read hread
    rw [hfields] at hwhole hbytes
    exact .inr ⟨version, id, method, params, hbytes, hwhole⟩
  · rw [hvalue] at hread hwhole hbytes
    obtain rfl : closed = true := (Bool.and_eq_true_iff.1 hwhole).2
    obtain ⟨units, spelled, text, hmethod⟩ := exists_method_of_read hread
    exact .inl ⟨members, units, spelled, text, hbytes, hwhole, hmethod⟩

/-- The fields of a request are read alike with their names and without. -/
theorem read_requestObject (version id method : Outline) (params : Option Outline) :
    (Codec.schema RpcRequest).read maxDepth (requestObject version id method params) =
      (Codec.schema RpcRequest).read maxDepth (requestArray version id method params) := by
  -- Field by field: no name stands twice in the object, so each is new when it is read.
  apply Schema.bind_readMembers_eq_map_readFields rfl rfl
  intro version
  apply Schema.bind_readMembers_eq_map_readFields rfl rfl
  intro id
  apply Schema.bind_readMembers_eq_map_readFields rfl rfl
  intro method
  cases params with
  | none => rfl
  | some params =>
    apply Schema.bind_readMembers_eq_map_readFields rfl rfl
    intro params
    rfl

/-- An array of the fields is read like the object with these members. -/
theorem requestOfLine?_array {array object : Bytes} {version id method : Outline}
    {params : Option Outline}
    (harray : Outline.ofBytes (trim isLineBlank array) =
      ⟨requestArray version id method params, false⟩)
    (hobject : Outline.ofBytes (trim isLineBlank object) =
      ⟨requestObject version id method params, false⟩) :
    requestOfLine? array = requestOfLine? object := by
  simp only [requestOfLine?, decode, Schema.parse, harray, hobject, read_requestObject]

/-! ## Lines in a stream -/

theorem requests_append_line_cons {whole line : Bytes} (hwhole : WholeLines whole)
    (hline : newline ∉ line) (rest : Bytes) (failure : Option String) :
    InputStream.requests ⟨whole ++ line ++ newline :: rest, failure⟩ =
      InputStream.requests ⟨whole, none⟩ ++ (requestOfLine? line).toList ++
        InputStream.requests ⟨rest, failure⟩ := by
  rw [List.append_assoc, requests_append hwhole, requests_append_newline_cons,
    requests_of_not_mem hline, List.append_assoc]

theorem requests_append_line {whole line : Bytes} (hwhole : WholeLines whole)
    (hline : newline ∉ line) :
    InputStream.requests ⟨whole ++ line, none⟩ =
      InputStream.requests ⟨whole, none⟩ ++ (requestOfLine? line).toList := by
  rw [requests_append hwhole, requests_of_not_mem hline]

/-- Only objects with a method, and arrays of the fields of a request, are executed.  A line that is
neither is passed over: wherever it stands in a stream, whatever the transport and the writer do,
the session is the one without it.  An array of the fields of a request is served like the object
that names them. -/
theorem only_objects_and_arrays_are_executed (transport : Transport σ) (output : OutputStream)
    (world : σ) {whole : Bytes} (hwhole : WholeLines whole) :
    (∀ line, newline ∉ line → ¬ IsObjectWithText "method" (trim isLineBlank line) →
      ¬ IsRequestArray (trim isLineBlank line) →
        (∀ rest failure,
          sessionOn transport ⟨whole ++ line ++ newline :: rest, failure⟩ output world =
            sessionOn transport ⟨whole ++ rest, failure⟩ output world) ∧
        sessionOn transport ⟨whole ++ line, none⟩ output world =
          sessionOn transport ⟨whole, none⟩ output world) ∧
    (∀ array object version id method params, newline ∉ array → newline ∉ object →
      Outline.ofBytes (trim isLineBlank array) =
        ⟨requestArray version id method params, false⟩ →
      Outline.ofBytes (trim isLineBlank object) =
        ⟨requestObject version id method params, false⟩ →
        ∀ rest failure,
          sessionOn transport ⟨whole ++ array ++ newline :: rest, failure⟩ output world =
            sessionOn transport ⟨whole ++ object ++ newline :: rest, failure⟩ output world) := by
  constructor
  · intro line hline hobject harray
    -- A line that gives no request leaves the requests of the stream as they are without it.
    have hnone : requestOfLine? line = none := by
      apply Option.eq_none_iff_forall_ne_some.2
      intro request hrequest
      exact (shape_of_decode (requestOfLine?_eq_some_iff.1 hrequest)).elim hobject harray
    constructor
    · intro rest failure
      apply sessionOn_congr
      rw [requests_append_line_cons hwhole hline, requests_append hwhole, hnone]
      simp
    · apply sessionOn_congr
      rw [requests_append_line hwhole hline, hnone]
      simp
  · intro array object version id method params harray hobject harrayIs hobjectIs rest failure
    apply sessionOn_congr
    rw [requests_append_line_cons hwhole harray, requests_append_line_cons hwhole hobject,
      requestOfLine?_array harrayIs hobjectIs]

/-- A ping in a list, which is how several requests would be sent at once. -/
def listedPing : Bytes := utf8Bytes "[\x7b\"jsonrpc\":\"2.0\",\"id\":1,\"method\":\"ping\"\x7d]"

/-- A ping as the array of its fields, and as the object that names them. -/
def pingArray : Bytes := utf8Bytes "[\"2.0\",1,\"ping\"]"

def pingObject : Bytes := utf8Bytes "\x7b\"jsonrpc\":\"2.0\",\"id\":1,\"method\":\"ping\"\x7d"

theorem listed_ping_is_passed_over :
    WholeLines (pingArray ++ [newline]) ∧
    ¬ IsObjectWithText "method" (trim isLineBlank listedPing) ∧
    ¬ IsRequestArray (trim isLineBlank listedPing) ∧
    sessionOn Memory.transport ⟨pingArray ++ [newline] ++ listedPing, none⟩ {} {} =
      sessionOn Memory.transport ⟨pingArray ++ [newline], none⟩ {} {} ∧
    sessionOn Memory.transport ⟨pingArray ++ [newline], none⟩ {} {} =
      sessionOn Memory.transport ⟨pingObject ++ [newline], none⟩ {} {} := by
  obtain ⟨members, closed, hlist⟩ : ∃ members closed,
      Outline.ofBytes (trim isLineBlank listedPing) =
        ⟨.array [.object members closed] true, false⟩ := ⟨_, _, rfl⟩
  have hobject : ¬ IsObjectWithText "method" (trim isLineBlank listedPing) := by
    rintro ⟨members, units, spelled, text, hbytes, -⟩
    cases hlist.symm.trans hbytes
  have harray : ¬ IsRequestArray (trim isLineBlank listedPing) := by
    rintro ⟨version, id, method, params, hbytes, -⟩
    cases hlist.symm.trans hbytes
  have hwhole : WholeLines (pingArray ++ [newline]) := .inr ⟨pingArray, rfl⟩
  have hnone : WholeLines [] := .inl rfl
  obtain ⟨hpassed, -⟩ := only_objects_and_arrays_are_executed Memory.transport {} {} hwhole
  obtain ⟨-, hserved⟩ := only_objects_and_arrays_are_executed Memory.transport {} {} hnone
  refine ⟨hwhole, hobject, harray, (hpassed listedPing (by decide) hobject harray).2, ?_⟩
  exact hserved pingArray pingObject _ _ _ none (by decide) (by decide) rfl rfl [] none

def additionArray : Bytes :=
  utf8Bytes ("[\"2.0\",7,\"tools/call\"," ++
    "\x7b\"name\":\"add_document\",\"arguments\":\x7b\"collection\":\"guides\"," ++
    "\"key\":\"setup\",\"lang\":\"en_US\",\"content_md\":\"Unpack.\"\x7d\x7d]")

set_option maxRecDepth 2000 in
/-- A line that is no object is executed: it is answered, and adds its document to the store. -/
theorem addition_array_is_executed :
    let served := session Memory.transport ⟨additionArray, none⟩ {}
    ¬ IsObjectWithText "method" (trim isLineBlank additionArray) ∧
      served.output ≠ [] ∧ served.calls.length = 1 ∧ served.world.store ≠ {} := by
  intro served
  constructor
  · obtain ⟨items, closed, harray⟩ : ∃ items closed,
        Outline.ofBytes (trim isLineBlank additionArray) = ⟨.array items closed, false⟩ :=
      ⟨_, _, rfl⟩
    rintro ⟨members, units, spelled, text, hbytes, -⟩
    cases harray.symm.trans hbytes
  · decide +kernel

end DocBridge
