import DocBridge.Proofs.JsonRecords
import DocBridge.Proofs.QueryTexts
import DocBridge.Rest.Backend

/-!
# What REST requests come to

Below a base URL whose endpoints can be reached, every request arrives at a store in memory as the
call that it was made of, and the response is read as the reply that the store has given.  So a call
over REST comes to what the store itself would do with it.
-/

namespace DocBridge.Rest

/-- A base URL below which the endpoints of all operations can be reached. -/
structure Site where
  base : String
  /-- Where the endpoint of an operation is. -/
  url : Operation → Url
  parsed : ∀ operation, Url.parse (endpointText base operation).toList = .ok (url operation)
  hosted : ∀ operation, (url operation).host?.isSome
  sendable : ∀ operation, isSendable (withoutUser (url operation)) = true
  path : ∀ operation, (url operation).path.text = (endpointPath operation).toList
  query : ∀ operation, (url operation).query = none
  fragment : ∀ operation, (url operation).fragment = none

def Site.backupUrl (site : Site) (request : BackupRequest) : Url :=
  addPair (withoutUser (site.url .backup)) ("to", request.destination)

/-- Whether a call can be sent: only the address of a backup can become too long. -/
def Site.Reaches (site : Site) : Call → Prop
  | .backup request =>
    (utf8Bytes (site.backupUrl request).toString).length ≤ HttpUri.maxLength
  | _ => True

/-! ## Requests -/

def Site.target (site : Site) : Call → Url
  | .backup request => site.backupUrl request
  | call => withoutUser (site.url call.operation)

theorem toString_addPair {url : Url} (hquery : url.query = none) (hfragment : url.fragment = none)
    (pair : String × String) :
    (addPair url pair).toString =
      url.toString ++ "?" ++ String.ofList (Url.Form.encodePair pair) := by
  apply String.toList_inj.1
  simp [addPair, Url.toString, Url.text, Url.head, hquery, hfragment, String.toList_append]

theorem isSendable_backupUrl (site : Site) {request : BackupRequest}
    (h : (utf8Bytes (site.backupUrl request).toString).length ≤ HttpUri.maxLength) :
    isSendable (site.backupUrl request) = true := by
  have hsendable := site.sendable .backup
  have hnoQuery : (withoutUser (site.url .backup)).query = none := site.query .backup
  have hnoFragment : (withoutUser (site.url .backup)).fragment = none := site.fragment .backup
  have htext : (site.backupUrl request).toString = (withoutUser (site.url .backup)).toString ++
      "?" ++ String.ofList (Url.Form.encodePair ("to", request.destination)) :=
    toString_addPair hnoQuery hnoFragment _
  have hquery : ∀ byte ∈ utf8Bytes
      (String.ofList (Url.Form.encodePair ("to", request.destination))),
      HttpUri.isQueryByte byte = true := by
    intro byte hbyte
    rw [utf8Bytes, String.toList_ofList] at hbyte
    exact Url.Form.isQueryByte_of_mem_encodePair hbyte
  simp only [isSendable, Bool.and_eq_true] at hsendable ⊢
  refine ⟨hsendable.1, ?_⟩
  rw [htext] at h ⊢
  exact HttpUri.isValid_append_query hsendable.2 hquery h

theorem urlOf_eq (site : Site) {call : Call} (h : site.Reaches call) :
    urlOf site.base call = .ok (site.target call) := by
  have hhost : (site.url call.operation).host?.isNone = false := by
    rw [← Option.not_isSome, site.hosted, Bool.not_true]
  rw [urlOf, site.parsed]
  simp only [hhost, Bool.false_eq_true, if_false]
  cases call with
  | backup request => exact if_pos (isSendable_backupUrl site h)
  | _ => exact if_pos (site.sendable _)

def Site.request (site : Site) (call : Call) : Request where
  method := if (body? call).isSome then .post else .get
  url := site.target call
  body := body? call

/-- A call is sent as the request for it at the site. -/
theorem request_eq (site : Site) {call : Call} (h : site.Reaches call) :
    request site.base call = .ok (site.request call) := by
  rw [request, urlOf_eq site h]
  rfl

/-! ## Responses -/

theorem operationAt?_endpointPath (operation : Operation) :
    operationAt? (endpointPath operation) = some operation := by
  cases operation <;> rfl

theorem isSome_body? (call : Call) : (body? call).isSome = takesBody call.operation := by
  cases call <;> rfl

/-- A request arrives at the endpoint of its call. -/
theorem respond_request (site : Site) (call : Call) (backend : Backend) :
    backend.respond (site.request call) =
      backend.respondAt (site.request call) call.operation := by
  have hpath : (site.target call).path.text = (endpointPath call.operation).toList := by
    cases call with
    | backup request => exact site.path .backup
    | _ => exact site.path _
  rw [Backend.respond, Site.request, hpath, String.ofList_toList, operationAt?_endpointPath]
  simp only [isSome_body?, if_true]

/-- The body of a request is read as what it was made of. -/
theorem bodyOf_eq {α : Type} [Json.Codec α] [Json.Lossless α]
    (hdepth : Json.Lossless.depth α ≤ Json.maxDepth) {request : Request} {value : α}
    (h : request.body = some (Json.toJson value)) : bodyOf α request = .ok value := by
  have hdecode := Json.decode_encode hdepth value
  rw [Json.encode] at hdecode
  rw [bodyOf, h]
  simp only [hdecode]
  rfl

/-- A body that can be read back arrives as the value that was sent. -/
theorem withBody_eq {α : Type} [Json.Codec α] [Json.Lossless α]
    (hdepth : Json.Lossless.depth α ≤ Json.maxDepth) {request : Request} {value : α}
    (h : request.body = some (Json.toJson value)) (backend : Backend)
    (respond : α → Response × Backend) :
    Backend.withBody request backend respond = respond value := by
  rw [Backend.withBody, bodyOf_eq hdepth h, Backend.respondTo]

theorem decodeBody_of_decode {α : Type} [Json.Codec α] {operation : Operation} {body : Bytes}
    {value : α} (h : Json.decode α body = .ok value) :
    decodeBody α operation body = .ok value := by
  rw [decodeBody, h]

/-- The body of a response is read as the reply that it was made of. -/
theorem decodeBody_eq {α : Type} [Json.Codec α] [Json.Lossless α]
    (hdepth : Json.Lossless.depth α ≤ Json.maxDepth) (operation : Operation) (value : α) :
    decodeBody α operation (Utf8.encode (Json.encode value)) = .ok value :=
  decodeBody_of_decode (Json.decode_encode hdepth value)

/-- The query of a backup is read as where it goes. -/
theorem backupOf_eq (site : Site) (request : BackupRequest) :
    backupOf (site.request (.backup request)) = .ok request := by
  have hquery : (site.request (.backup request)).url.query =
      some (Url.Form.encodePair ("to", request.destination)) := by
    simp [Site.request, Site.target, Site.backupUrl, addPair, withoutUser, site.query]
  rw [backupOf, hquery, Option.getD_some, Url.Form.decode_encodePair]
  rfl

/-- The members of a state of health are read in whatever order they stand. -/
theorem decodeBody_health :
    decodeBody Health .health (Utf8.encode (Json.encode Backend.health)) =
      .ok { status := "healthy", mode := "wr" } := by
  let fields := [Json.optional "status" String, Json.optional "mode" String]
  -- They stand in the order of their names here, and are collected in that of the fields.
  let members : Json.Members := [("mode", .string "wr"), ("status", .string "healthy")]
  have hstring : ∀ text, Json.Schema.read .string 126 (Json.Outline.ofJson (.string text)) =
      .ok (.string text) := fun text => Json.Lossless.read_toJson text 126 (Nat.zero_le 126)
  have hmembers : Json.Schema.readMembers fields 126 true [] (Json.Outline.ofMembers members) =
      .ok (members.reverse ++ []) := by
    apply Json.readMembers_ofMembers
    · intro member hmember
      rcases List.mem_cons.1 hmember with rfl | hmember
      · exact ⟨.optional, .string, rfl, hstring "wr"⟩
      · rw [List.mem_singleton] at hmember
        subst hmember
        exact ⟨.optional, .string, rfl, hstring "healthy"⟩
    · decide
  have hread : (Json.Codec.schema Health).read Json.maxDepth
      (Json.Outline.ofJson Backend.health) =
        .ok (.object [("status", .string "healthy"), ("mode", .string "wr")]) := by
    change (Json.Schema.readMembers fields 126 true [] (Json.Outline.ofMembers members)).bind
      (Json.Schema.collect fields) = _
    rw [hmembers]
    rfl
  exact decodeBody_of_decode (Json.decode_of_read hread rfl)

theorem decodeBody_truncated :
    decodeBody Json .truncate (Utf8.encode (Json.encode ({} : Backend).truncateBody)) =
      .ok (.object [("status", .string "truncated")]) := by
  let members : Json.Members := [("status", .string "truncated")]
  have hstring : Json.Schema.any.read 126 (Json.Outline.ofJson (.string "truncated")) =
      .ok (.string "truncated") := by
    change Json.Schema.readString .any (Json.Outline.textOf "truncated") = _
    rw [Json.Schema.readString, Json.readText_textOf]
  have hmembers : Json.Schema.readMap .any 126 true [] (Json.Outline.ofMembers members) =
      .ok (members.reverse ++ []) := by
    apply Json.readMap_ofMembers
    intro member hmember
    rw [List.mem_singleton] at hmember
    subst hmember
    exact hstring
  have hread : (Json.Codec.schema Json).read Json.maxDepth
      (Json.Outline.ofJson ({} : Backend).truncateBody) =
        .ok (.object [("status", .string "truncated")]) := by
    change (Json.Schema.readMap .any 126 true [] (Json.Outline.ofMembers members)).map _ = _
    rw [hmembers]
    rfl
  exact decodeBody_of_decode (Json.decode_of_read hread rfl)

/-! ## Calls -/

/-- A call is performed by sending its request to the store and reading the response. -/
theorem perform_eq (site : Site) {call : Call} (h : site.Reaches call) (backend : Backend) :
    (transport Backend.wire site.base).perform call backend =
      (outcome call (backend.respondAt (site.request call) call.operation).1,
        (backend.respondAt (site.request call) call.operation).2) := by
  rw [transport]
  simp only [perform, request_eq site h, Backend.wire, respond_request]

/-- A response with a value in its body is a success. -/
theorem outcome_success {α : Type} [Json.Codec α] (call : Call) (value : α) :
    outcome call (success value) = ofBody call (Utf8.encode (Json.encode value)) := rfl

/-- The body of an export is the data, whether it is empty or one chunk. -/
theorem joined_of_body (body : Bytes) :
    ExportStream.joined { chunks := if body.isEmpty then [] else [body] } =
      { chunks := [body] } := by
  cases body <;> simp [ExportStream.joined]

/-- A call over REST comes to what the store itself would do with it. -/
theorem perform_alike (site : Site) {call : Call} (h : site.Reaches call) (store : Store) :
    Alike (((transport Backend.wire site.base).perform call { store }).1.map call.operation.joined)
        ((store.answer call).1.map call.operation.joined) ∧
      ((transport Backend.wire site.base).perform call { store }).2.store = store.after call := by
  rw [perform_eq site h]
  cases call with
  | health =>
    simp only [Call.operation, Backend.respondAt, Backend.unchanged, outcome_success, ofBody]
    rw [decodeBody_health]
    exact ⟨.refl _, rfl⟩
  | stats =>
    simp only [Call.operation, Backend.respondAt, Backend.unchanged, outcome_success, ofBody]
    rw [decodeBody_eq (by decide)]
    exact ⟨.refl _, rfl⟩
  | add request | addBatch request | updateBatch request | deleteBatch request =>
    simp only [Call.operation, Backend.respondAt]
    rw [withBody_eq (by decide) rfl]
    simp only [Backend.changed, outcome_success, ofBody]
    rw [decodeBody_eq (by decide)]
    exact ⟨.refl _, rfl⟩
  | deleteCollection request =>
    simp only [Call.operation, Backend.respondAt]
    rw [withBody_eq (by decide) rfl]
    simp only [Backend.deleteCollection, Backend.changed, outcome_success, ofBody]
    rw [decodeBody_eq (by decide)]
    exact ⟨.refl _, rfl⟩
  | search request | restore request =>
    simp only [Call.operation, Backend.respondAt]
    rw [withBody_eq (by decide) rfl]
    simp only [Backend.unchanged, outcome_success, ofBody]
    rw [decodeBody_eq (by decide)]
    exact ⟨.refl _, rfl⟩
  | get request =>
    simp only [Call.operation, Backend.respondAt]
    rw [withBody_eq (by decide) rfl]
    simp only [Backend.get, Store.after, Store.answer, Memory.answer]
    cases store.get? request with
    | some document =>
      simp only [Backend.unchanged, outcome_success, ofBody]
      rw [decodeBody_eq (by decide)]
      exact ⟨.refl _, rfl⟩
    | none => exact ⟨.failed _ _, rfl⟩
  | delete request =>
    simp only [Call.operation, Backend.respondAt]
    rw [withBody_eq (by decide) rfl]
    simp only [Backend.delete, Store.after, Store.answer, Memory.answer]
    rcases store.delete request with ⟨found, after⟩
    cases found with
    | true => exact ⟨.refl _, rfl⟩
    | false => exact ⟨.failed _ _, rfl⟩
  | exportDocuments request =>
    simp only [Call.operation, Backend.respondAt]
    rw [withBody_eq (by decide) rfl]
    refine ⟨?_, rfl⟩
    change Alike (.ok (ExportStream.joined _)) _
    rw [joined_of_body]
    exact .refl _
  | backup request =>
    simp only [Call.operation, Backend.respondAt]
    rw [backupOf_eq]
    simp only [Backend.respondTo, Backend.unchanged, outcome_success, ofBody]
    rw [decodeBody_eq (by decide)]
    exact ⟨.refl _, rfl⟩
  | truncate request =>
    simp only [Call.operation, Backend.respondAt]
    rw [withBody_eq (by decide) rfl]
    simp only [Backend.unchanged, outcome_success, ofBody]
    rw [decodeBody_truncated]
    exact ⟨.refl _, rfl⟩

end DocBridge.Rest
