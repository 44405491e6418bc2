import DocBridge.Proofs.RequestEdits
import DocBridge.Proofs.ResultTexts

/-!
# Responses are read back

A response that was written can be read.  Its members are read as they were, but for what is null:
whoever reads a response takes an id or a result that is null for one that is absent, while a
request that is read keeps the two apart.  So a response to an id that is null comes back without an
id, and the response to a notification that carries an id comes back without a result.
-/

namespace DocBridge.Json

/-! ## What is read is in order -/

theorem sortedItems_of_forall {items : List Json} (h : ∀ item ∈ items, item.sorted = item) :
    sortedItems items = items := by
  rw [sortedItems_eq_map, List.map_congr_left h, List.map_id']

theorem sortedMembers_of_forall {members : Members}
    (h : ∀ member ∈ members, member.2.sorted = member.2) : sortedMembers members = members := by
  have hsame : ∀ member ∈ members, (member.1, member.2.sorted) = member :=
    fun member hmember => by rw [h member hmember]
  rw [sortedMembers_eq_map, List.map_congr_left hsame, List.map_id']

theorem sorted_record {members : Members} (h : ∀ member ∈ members, member.2.sorted = member.2) :
    (record members).sorted = record members := by
  have hentries : ∀ member ∈ (SortedMap.ofList members).entries, member.2.sorted = member.2 :=
    fun member hmember => h member (SortedMap.mem_of_mem_ofList hmember)
  change record (sortedMembers (SortedMap.ofList members).entries) = _
  rw [sortedMembers_of_forall hentries, record, SortedMap.ofList_entries, record]

/-- Values of any form come out of the reader sorted. -/
theorem sorted_of_read {room : Nat} {outline : Outline} {json : Json}
    (h : Schema.any.read room outline = .ok json) : json.sorted = json :=
  induct_of_read (motive := fun _ json => json.sorted = json) (fun _ => rfl) (fun _ _ => rfl)
    (fun _ _ => rfl) (fun _ _ => rfl)
    (fun _ _ hitems => congrArg Json.array (sortedItems_of_forall hitems))
    (fun _ _ hmembers => sorted_record hmembers) h

/-- An object that is written in order is read back if its members are. -/
theorem readsBack_sorted {room : Nat} {members : Members}
    (h : ∀ member ∈ members, ReadsBack room member.2) :
    ReadsBack (room + 1) (Json.object members).sorted := by
  change ReadsBack (room + 1) (record (sortedMembers members))
  rw [sortedMembers_of_forall fun member hmember => sorted_of_read (h member hmember)]
  exact readsBack_record h

/-! ## Members that may be absent -/

section Members

variable {α : Type} [Codec α] {name other : String} {value : Option α}

@[simp]
theorem lookup_ifSome_self : (ifSome name value).lookup name = value.map toJson := by
  cases value <;> simp [ifSome]

@[simp]
theorem lookup_ifSome_of_ne (h : other ≠ name) : (ifSome name value).lookup other = none := by
  cases value <;> simp [ifSome, SortedMap.lookup_cons_of_ne h]

end Members

/-- What is read where null is not wanted is also read where it is. -/
theorem read_nullable {schema : Schema} {room : Nat} {outline : Outline} {json : Json}
    (h : schema.read room outline = .ok json) :
    (Schema.nullable schema).read room outline = .ok json := by
  cases outline with
  | null =>
    rw [Schema.read] at h
    split at h <;> cases h
    rfl
  | _ =>
    rw [Schema.read] at h ⊢
    exact h

/-- One more field that is left out when there is no value. -/
theorem Written.ifSome {depth : Nat} {fields : List (String × Presence × Schema)}
    {members : Members} {α : Type} [Codec α] (h : Written depth fields members) {name : String}
    {value : Option α}
    (hvalue : ∀ present, value = some present → ∀ room, depth ≤ room →
      (Codec.schema α).read room (Outline.ofJson (toJson present)) = .ok (toJson present)) :
    Written depth (fields ++ [absentByName name α]) (members ++ DocBridge.ifSome name value) := by
  apply h.append
  cases value with
  | none => exact .absent nofun .nil
  | some present =>
    exact .present (fun room hroom => read_nullable (hvalue present rfl room hroom)) .nil

end DocBridge.Json

namespace DocBridge

open Json

variable {σ : Type} {depth : Nat}

/-! ## Values that are read back -/

/-- A value that is read back wherever at least so many containers may be opened. -/
def IsReadFrom (depth : Nat) (json : Json) : Prop := ∀ room, depth ≤ room → ReadsBack room json

theorem IsReadFrom.mono {deeper : Nat} {json : Json} (h : IsReadFrom depth json)
    (hdepth : depth ≤ deeper) : IsReadFrom deeper json :=
  fun room hroom => h room (Nat.le_trans hdepth hroom)

@[simp]
theorem isReadFrom_null : IsReadFrom depth .null := fun _ _ => rfl

@[simp]
theorem isReadFrom_bool (value : Bool) : IsReadFrom depth (.bool value) := fun _ _ => rfl

@[simp]
theorem isReadFrom_integer (value : WideInt) : IsReadFrom depth (.number (.integer value)) :=
  fun room _ => read_number .any room value

@[simp]
theorem isReadFrom_string (text : String) : IsReadFrom depth (.string text) :=
  fun room _ => readsBack_string room text

theorem isReadFrom_array {items : List Json} (h : ∀ item ∈ items, IsReadFrom depth item) :
    IsReadFrom (depth + 1) (.array items) := by
  intro room hroom
  obtain ⟨inner, rfl⟩ := Nat.exists_eq_add_of_le' (Nat.le_of_add_left_le hroom)
  exact readsBack_array fun item hitem => h item hitem inner (Nat.le_of_succ_le_succ hroom)

theorem isReadFrom_record {members : Members} (h : ∀ member ∈ members, IsReadFrom depth member.2) :
    IsReadFrom (depth + 1) (.record members) := by
  intro room hroom
  obtain ⟨inner, rfl⟩ := Nat.exists_eq_add_of_le' (Nat.le_of_add_left_le hroom)
  exact readsBack_record fun member hmember =>
    h member hmember inner (Nat.le_of_succ_le_succ hroom)

theorem isReadFrom_empty : IsReadFrom (depth + 1) (.object []) :=
  isReadFrom_record (List.forall_mem_nil _)

theorem isReadFrom_sorted {members : Members} (h : ∀ member ∈ members, IsReadFrom depth member.2) :
    IsReadFrom (depth + 1) (Json.object members).sorted := by
  intro room hroom
  obtain ⟨inner, rfl⟩ := Nat.exists_eq_add_of_le' (Nat.le_of_add_left_le hroom)
  exact readsBack_sorted fun member hmember =>
    h member hmember inner (Nat.le_of_succ_le_succ hroom)

theorem isReadFrom_contentResult (name : String) {members : Members}
    (h : ∀ member ∈ members, ∃ text, member.2 = .string text) :
    IsReadFrom 3 (contentResult name members) :=
  fun _ hroom => readsBack_contentResult hroom name h

/-! ## Records of responses -/

def Json.isNull : Json → Bool
  | .null => true
  | _ => false

/-- What is left of a member when null is taken for its absence. -/
def unlessNull (value : Option Json) : Option Json := value.filter fun json => !json.isNull

@[simp]
theorem unlessNull_none : unlessNull none = none := rfl

@[simp]
theorem unlessNull_some_eq_iff {json : Json} :
    unlessNull (some json) = some json ↔ json ≠ .null := by
  cases json <;> simp [unlessNull, isNull, Option.filter]

def RpcError.withoutNulls (error : RpcError) : RpcError :=
  { error with data := unlessNull error.data }

/-- The response in which every member that is null is absent. -/
def RpcResponse.withoutNulls (response : RpcResponse) : RpcResponse where
  version := response.version
  id := unlessNull response.id
  result := unlessNull response.result
  error := response.error.map RpcError.withoutNulls

theorem elim_json (value : Option Json) :
    value.elim (some none) (Codec.ofJson? ∘ toJson) = some (unlessNull value) := by
  cases value with
  | none => rfl
  | some json => cases json <;> rfl

theorem read_rpcError {error : RpcError} (hdata : ∀ data, error.data = some data →
    IsReadFrom depth data) {room : Nat} (hroom : depth + 1 ≤ room) :
    (Codec.schema RpcError).read room (Outline.ofJson (toJson error)) = .ok (toJson error) :=
  Written.read (((Written.nil.always (Nat.zero_le depth)).always (Nat.zero_le depth)).ifSome hdata)
    (by decide) hroom

theorem ofJson?_rpcError (error : RpcError) :
    Codec.ofJson? (toJson error) = some error.withoutNulls := by
  unfold instCodecRpcError
  simp [List.lookup_append, elim_json, RpcError.withoutNulls]

theorem elim_rpcError (error : Option RpcError) :
    error.elim (some none) (Codec.ofJson? ∘ toJson) = some (error.map RpcError.withoutNulls) := by
  cases error with
  | none => rfl
  | some error => exact congrArg (Option.map some) (ofJson?_rpcError error)

/-- A response is read back but for a null that stands for nothing. -/
theorem ofJson?_response (response : RpcResponse) :
    Codec.ofJson? (toJson response) = some response.withoutNulls := by
  unfold instCodecRpcResponse
  simp [List.lookup_append, elim_json, elim_rpcError, RpcResponse.withoutNulls]

/-- Every part of a response that a text can hold is read back wherever so many containers may be
opened. -/
structure RpcResponse.IsReadFrom (depth : Nat) (response : RpcResponse) : Prop where
  id : ∀ id, response.id = some id → DocBridge.IsReadFrom depth id
  result : ∀ result, response.result = some result → DocBridge.IsReadFrom depth result
  data : ∀ error data, response.error = some error → error.data = some data →
    DocBridge.IsReadFrom depth data

/-- A response is read back, but for what is null. -/
theorem decode_encode_response {response : RpcResponse} (h : response.IsReadFrom depth)
    (hdepth : depth + 2 ≤ maxDepth) :
    decode RpcResponse (Utf8.encode (encode response)) = .ok response.withoutNulls := by
  have hid : ∀ id, response.id = some id → ∀ room, depth + 1 ≤ room → ReadsBack room id :=
    fun id hid room hroom => h.id id hid room (Nat.le_of_succ_le hroom)
  have hresult : ∀ result, response.result = some result → ∀ room, depth + 1 ≤ room →
      ReadsBack room result :=
    fun result hresult room hroom => h.result result hresult room (Nat.le_of_succ_le hroom)
  have herror : ∀ error, response.error = some error → ∀ room, depth + 1 ≤ room →
      (Codec.schema RpcError).read room (Outline.ofJson (toJson error)) = .ok (toJson error) :=
    fun error herror room hroom => read_rpcError (h.data error · herror) hroom
  apply decode_of_read _ (ofJson?_response response)
  exact Json.Written.read
    ((((Json.Written.nil.always (Nat.zero_le _)).ifSome hid).ifSome hresult).ifSome herror)
    (by decide) hdepth

/-! ## What methods answer -/

theorem isReadFrom_argumentType (type : ArgumentType) : IsReadFrom 5 type.toJson := by
  cases type with
  | metadata =>
    have hproperties : IsReadFrom 3 (.array [.record [("type", .string "string")],
        .record [("type", .string "array"),
          ("items", .record [("type", .string "string")])]]) := by
      apply isReadFrom_array
      simp [isReadFrom_record]
    apply isReadFrom_record
    simp [isReadFrom_record, hproperties]
  | _ => simp [ArgumentType.toJson, isReadFrom_record]

theorem isReadFrom_initializeResult : IsReadFrom 3 initializeResult := by
  apply isReadFrom_record
  simp [isReadFrom_record]

theorem isReadFrom_arguments (schema : ArgumentSchema) : IsReadFrom 7 schema.toJson := by
  have hproperties : IsReadFrom 6 (.record ((schema.required ++ schema.optional).map
      fun argument => (argument.1, argument.2.toJson))) := by
    apply isReadFrom_record
    intro member hmember
    obtain ⟨argument, -, rfl⟩ := List.mem_map.1 hmember
    exact isReadFrom_argumentType argument.2
  have hrequired : IsReadFrom 6 (.array (schema.required.map fun argument =>
      .string argument.1)) := by
    apply isReadFrom_array
    intro item hitem
    obtain ⟨argument, -, rfl⟩ := List.mem_map.1 hitem
    exact isReadFrom_string argument.1
  apply isReadFrom_record
  exact List.forall_mem_cons.2 ⟨isReadFrom_string _,
    List.forall_mem_cons.2 ⟨hproperties, List.forall_mem_singleton.2 hrequired⟩⟩

theorem isReadFrom_resourceList : IsReadFrom 3 resourceList := by
  have htemplates : IsReadFrom 2 (.array (resourceTemplates.map ResourceTemplate.toJson)) := by
    apply isReadFrom_array
    intro item hitem
    obtain ⟨template, -, rfl⟩ := List.mem_map.1 hitem
    apply isReadFrom_record
    simp
  apply isReadFrom_record
  simp [htemplates]

theorem isReadFrom_toolList : IsReadFrom 10 toolList := by
  have hdefinitions : IsReadFrom 9 (.array (Tool.all.map fun tool =>
      (toJson tool.definition).sorted)) := by
    apply isReadFrom_array
    intro item hitem
    obtain ⟨tool, -, rfl⟩ := List.mem_map.1 hitem
    apply isReadFrom_sorted
    exact List.forall_mem_cons.2 ⟨isReadFrom_string _, List.forall_mem_cons.2
      ⟨isReadFrom_string _, List.forall_mem_singleton.2 (isReadFrom_arguments tool.arguments)⟩⟩
  apply isReadFrom_record
  exact List.forall_mem_singleton.2 hdefinitions

def Plan.Gives {α : Type} : Plan α → α → Prop
  | .known answer, result => answer = result
  | .asks question, result => ∃ reply, question.render reply = result

theorem Plan.gives_of_carryOut {α : Type} {transport : Transport σ} {plan : Plan α} {world : σ}
    {result : α} (h : (plan.carryOut transport world).1 = .ok result) : plan.Gives result := by
  cases plan with
  | known answer => exact Except.ok.inj h
  | asks question =>
    simp only [Plan.carryOut, Question.ask] at h
    split at h
    · exact ⟨_, Except.ok.inj h⟩
    · cases h

theorem gives_toolCall {params : Arguments} {plan : Plan Json}
    (hplan : planToolCall params = .ok plan) {result : Json} (h : plan.Gives result) :
    ∃ text, result = toolResult text := by
  simp only [planToolCall] at hplan
  split at hplan
  · cases hplan
  · split at hplan
    · cases hplan
    · simp only [toolQuestion] at hplan
      split at hplan
      · cases hplan
      · cases hplan
        obtain ⟨reply, rfl⟩ := h
        exact ⟨_, rfl⟩

theorem gives_resourceRead {params : Arguments} {plan : Plan Json}
    (hplan : planResourceRead params = .ok plan) {result : Json} (h : plan.Gives result) :
    ∃ uri mimeType text, result = resourceResult uri mimeType text := by
  simp only [planResourceRead] at hplan
  split at hplan
  · cases hplan
  · simp only [resourceQuestion] at hplan
    split at hplan
    · cases hplan
    · cases hplan
      obtain ⟨reply, rfl⟩ := h
      exact ⟨_, _, _, rfl⟩

inductive IsResultOf (method : String) : Json → Prop
  | nothing (h : isNotificationMethod method = true) : IsResultOf method .null
  | object {members : Members} (h : isNotificationMethod method = false)
      (hread : IsReadFrom 10 (.object members)) : IsResultOf method (.object members)

/-- The results of a method have the form of that method. -/
theorem isResultOf_of_planMethod {method : String} {params : Option Json} {plan : Plan Json}
    (hplan : planMethod method params = some (.ok plan)) {result : Json} (h : plan.Gives result) :
    IsResultOf method result := by
  unfold planMethod at hplan
  -- One case for each method, in the order in which they are looked for.
  split at hplan
  · cases hplan
    cases h
    exact .object (by decide) (isReadFrom_initializeResult.mono (by decide))
  · cases hplan
    cases h
    exact .object (by decide) isReadFrom_empty
  · cases hplan
    cases h
    exact .object (by decide) (isReadFrom_resourceList.mono (by decide))
  · obtain ⟨uri, mimeType, text, rfl⟩ := gives_resourceRead (Option.some.inj hplan) h
    have hcontents : IsReadFrom 3 (resourceResult uri mimeType text) :=
      isReadFrom_contentResult "contents" (by simp)
    exact .object (by decide) (hcontents.mono (by decide))
  · cases hplan
    cases h
    exact .object (by decide) isReadFrom_toolList
  · obtain ⟨text, rfl⟩ := gives_toolCall (Option.some.inj hplan) h
    have hcontent : IsReadFrom 3 (toolResult text) := isReadFrom_contentResult "content" (by simp)
    exact .object (by decide) (hcontent.mono (by decide))
  · split at hplan
    · rename_i hnotification
      cases hplan
      cases h
      exact .nothing hnotification
    · cases hplan

theorem planMethod_of_notification {method : String} (h : isNotificationMethod method = true)
    (params : Option Json) : planMethod method params = some (.ok (.known .null)) := by
  unfold planMethod
  split
  iterate 6 exact absurd h (by decide)
  rw [if_pos h]

/-- A request is planned if its version is right and its method is known, with parameters that it
takes. -/
theorem planRequest_eq_ok_iff {version method : String} {params : Option Json} {plan : Plan Json} :
    planRequest version method params = .ok plan ↔
      version = rpcVersion ∧ planMethod method params = some (.ok plan) := by
  rw [planRequest]
  by_cases hversion : version = rpcVersion
  · rw [if_neg (not_not_intro hversion)]
    cases hplan : planMethod method params with
    | none => simp
    | some planned => cases planned <;> simp [hversion]
  · simp [hversion]

/-- The outcome of a request whose plan has been made. -/
theorem carryOutRequest_fst (transport : Transport σ) (request : RpcRequest) (world : σ)
    {plan : Plan Json}
    (hplan : planRequest request.version request.method request.params = .ok plan) :
    (carryOutRequest transport request.version request.method request.params world).1 =
      match (plan.carryOut transport world).1 with
      | .ok result => .ok result
      | .error failure => rpcFailure failure := by
  simp only [carryOutRequest, hplan]
  cases plan.carryOut transport world with
  | mk outcome after => cases outcome <;> rfl

/-- A request that has a result is of the known version, and its method can answer so. -/
theorem isResultOf_of_carryOutRequest {transport : Transport σ} {request : RpcRequest} {world : σ}
    {result : Json}
    (h : (carryOutRequest transport request.version request.method request.params world).1 =
      .ok result) :
    request.version = rpcVersion ∧ IsResultOf request.method result := by
  cases hplan : planRequest request.version request.method request.params with
  | error refusal =>
    rw [carryOutRequest, hplan] at h
    cases h
  | ok plan =>
    rw [carryOutRequest_fst transport request world hplan] at h
    obtain ⟨hversion, hmethod⟩ := planRequest_eq_ok_iff.1 hplan
    split at h
    · rename_i answer hanswer
      cases h
      exact ⟨hversion, isResultOf_of_planMethod hmethod (Plan.gives_of_carryOut hanswer)⟩
    · cases h

/-- A notification of the protocol that is of the known version has the result null. -/
theorem carryOutRequest_of_notification (transport : Transport σ) {request : RpcRequest}
    (world : σ) (hversion : request.version = rpcVersion)
    (hmethod : isNotificationMethod request.method = true) :
    (carryOutRequest transport request.version request.method request.params world).1 =
      .ok .null :=
  carryOutRequest_fst transport request world
    (planRequest_eq_ok_iff.2 ⟨hversion, planMethod_of_notification hmethod request.params⟩)

/-! ## Responses -/

/-- An id that is null, a text or an integer. -/
inductive IsSimpleId : Json → Prop
  | null : IsSimpleId .null
  | string (text : String) : IsSimpleId (.string text)
  | integer (value : WideInt) : IsSimpleId (.number (.integer value))

theorem IsSimpleId.isReadFrom {id : Json} (h : IsSimpleId id) : IsReadFrom depth id := by
  cases h with
  | null => exact isReadFrom_null
  | string text => exact isReadFrom_string text
  | integer value => exact isReadFrom_integer value

/-- A response can be read at the depth at which its identifier and its result can. -/
theorem isReadFrom_ofOutcome {id : Json} (hid : IsReadFrom depth id) {outcome : RpcOutcome}
    (hresult : ∀ result, outcome = .ok result → IsReadFrom depth result) :
    (RpcResponse.ofOutcome (some id) outcome).IsReadFrom depth := by
  cases outcome with
  | ok result =>
    constructor
    · rintro _ ⟨rfl⟩
      exact hid
    · rintro _ ⟨rfl⟩
      exact hresult result rfl
    · rintro _ _ ⟨⟩
  | error failure =>
    constructor
    · rintro _ ⟨rfl⟩
      exact hid
    · rintro _ ⟨⟩
    · rintro _ _ ⟨rfl⟩ ⟨⟩

/-- Which responses are read back as they were: those whose id and result are not null. -/
theorem withoutNulls_ofOutcome_eq_iff {id : Json} {outcome : RpcOutcome} :
    (RpcResponse.ofOutcome (some id) outcome).withoutNulls = .ofOutcome (some id) outcome ↔
      id ≠ .null ∧ outcome ≠ .ok .null := by
  cases outcome with
  | ok result => simp [RpcResponse.withoutNulls, RpcResponse.ofOutcome, RpcResponse.success]
  | error failure =>
    simp [RpcResponse.withoutNulls, RpcError.withoutNulls, RpcResponse.ofOutcome,
      RpcResponse.failure]

/-- A response is read back but for what is null.  Whatever the store replies, the text of the
response to a request whose id is null, a text or an integer is decoded to that response without an
id or a result that is null; it is the same response unless the id is null or the request, of the
known version, has the method of a notification. -/
theorem responses_are_read_back_but_for_nulls (transport : Transport σ) (world : σ)
    (request : RpcRequest) {id : Json} (hid : request.id = some id) (hsimple : IsSimpleId id) :
    ∃ response, (handleRequest transport request world).1 = some response ∧
      decode RpcResponse (Utf8.encode (encode response)) = .ok response.withoutNulls ∧
      (response.withoutNulls = response ↔
        id ≠ .null ∧
          ¬ (request.version = rpcVersion ∧ isNotificationMethod request.method = true)) := by
  let outcome :=
    (carryOutRequest transport request.version request.method request.params world).1
  have hresponse : (handleRequest transport request world).1 =
      some (.ofOutcome (some id) outcome) := by
    simp [handleRequest, RpcRequest.isNotification, hid, outcome]
  have hresult : ∀ result, outcome = .ok result → IsReadFrom 10 result := by
    intro result houtcome
    cases (isResultOf_of_carryOutRequest houtcome).2 with
    | nothing hmethod => exact isReadFrom_null
    | object hmethod hread => exact hread
  have hnull : outcome = .ok .null ↔
      request.version = rpcVersion ∧ isNotificationMethod request.method = true := by
    constructor
    · intro houtcome
      obtain ⟨hversion, hmethod⟩ := isResultOf_of_carryOutRequest houtcome
      cases hmethod with
      | nothing hmethod => exact ⟨hversion, hmethod⟩
    · rintro ⟨hversion, hmethod⟩
      exact carryOutRequest_of_notification transport world hversion hmethod
  refine ⟨_, hresponse, ?_, ?_⟩
  · apply decode_encode_response (isReadFrom_ofOutcome hsimple.isReadFrom hresult)
    decide
  · rw [withoutNulls_ofOutcome_eq_iff]
    exact and_congr_right fun _ => not_congr hnull

/-- The response to an addition under the largest id that is an integer is read back as it was. -/
theorem addition_response_is_read_back :
    let largest : WideInt := ⟨0xFFFFFFFFFFFFFFFF, by decide⟩
    let request := { additionRequest "Notes" "a" with id := some (.number (.integer largest)) }
    IsSimpleId (.number (.integer largest)) ∧
      ∃ response, (handleRequest Memory.transport request {}).1 = some response ∧
        response.error.isNone ∧
        decode RpcResponse (Utf8.encode (encode response)) = .ok response := by
  intro largest request
  obtain ⟨response, hresponse, hdecode, hsame⟩ :=
    responses_are_read_back_but_for_nulls Memory.transport {} request rfl (.integer largest)
  refine ⟨.integer largest, response, hresponse, ?_, ?_⟩
  · cases hresponse
    rfl
  · rw [hdecode, hsame.2 ⟨nofun, by decide⟩]

def nullIdPing : RpcRequest where
  version := rpcVersion
  id := some .null
  method := "ping"

/-- A notification of the protocol that asks for an answer, since it has an id. -/
def answeredNotification : RpcRequest where
  version := rpcVersion
  id := some (.string "a")
  method := "notifications/initialized"

/-- An id that is null is lost when its response is read, and so is a result that is null. -/
theorem null_id_and_null_result_are_lost :
    (∃ response again, (handleRequest Memory.transport nullIdPing {}).1 = some response ∧
      decode RpcResponse (Utf8.encode (encode response)) = .ok again ∧
      response.id = some .null ∧ again.id = none) ∧
    (∃ response again, (handleRequest Memory.transport answeredNotification {}).1 = some response ∧
      decode RpcResponse (Utf8.encode (encode response)) = .ok again ∧
      response.result = some .null ∧ again.result = none) := by
  have hping : (RpcResponse.ofOutcome (some .null) (.ok (.object []))).IsReadFrom 1 := by
    apply isReadFrom_ofOutcome isReadFrom_null
    rintro _ ⟨rfl⟩
    exact isReadFrom_empty
  have hnotification : (RpcResponse.ofOutcome (some (.string "a")) (.ok .null)).IsReadFrom 1 := by
    apply isReadFrom_ofOutcome (isReadFrom_string "a")
    rintro _ ⟨rfl⟩
    exact isReadFrom_null
  exact ⟨⟨_, _, rfl, decode_encode_response hping (by decide), rfl, rfl⟩,
    ⟨_, _, rfl, decode_encode_response hnotification (by decide), rfl, rfl⟩⟩

end DocBridge
