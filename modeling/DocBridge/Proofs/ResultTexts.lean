import DocBridge.Proofs.JsonRecords
import DocBridge.Proofs.PrettyTexts
import DocBridge.Proofs.Rereading
import DocBridge.Proofs.RequestAnswers
import DocBridge.Proofs.ResponseStream

/-!
# Texts of results

What the store replies reaches the agent as it was.  The reply stands as a text inside the result of
a response, which is itself a text on a line of the output: both are decoded here, the line as JSON
and the text in it as the reply of its operation.
-/

namespace DocBridge

open Json hiding Document

variable {σ : Type}

/-! ## Results -/

/-- The text of the first of the contents that the result of an answer has under a name. -/
def answerText? (name : String) (answer : Json) : Option String := do
  let result ← answer.member? "result"
  let contents ← (← result.member? name).items?
  let content ← contents.head?
  (← content.member? "text").string?

/-- A result with one content, as tools and resources give it. -/
def contentResult (name : String) (members : Members) : Json :=
  .record [(name, .array [.record members])]

theorem readsBack_contentResult {room : Nat} (hroom : 3 ≤ room) (name : String) {members : Members}
    (h : ∀ member ∈ members, ∃ text, member.2 = .string text) :
    ReadsBack room (contentResult name members) := by
  obtain ⟨rest, rfl⟩ := Nat.exists_eq_add_of_le' hroom
  refine readsBack_record (List.forall_mem_singleton.2 ?_)
  refine readsBack_array (List.forall_mem_singleton.2 ?_)
  refine readsBack_record fun member hmember => ?_
  obtain ⟨text, htext⟩ := h member hmember
  rw [htext]
  exact readsBack_string _ text

/-! ## Answers -/

/-- The text of a response with a result is decoded to JSON that has the result as it was. -/
theorem exists_decode_success {id result : Json} (hid : Rereads (maxDepth - 1) id)
    (hresult : ReadsBack (maxDepth - 1) result) :
    ∃ json, Json.decode Json (Utf8.encode (encode (RpcResponse.success (some id) result))) =
        .ok json ∧ json.member? "result" = some result := by
  obtain ⟨again, hagain⟩ := hid
  have hversion := readsBack_string (maxDepth - 1) rpcVersion
  rw [ReadsBack] at hresult hversion
  have hmembers : Schema.any.readMap (maxDepth - 1) true []
      (Outline.ofMembers [("jsonrpc", .string rpcVersion), ("id", id), ("result", result)]) =
      .ok [("result", result), ("id", again), ("jsonrpc", .string rpcVersion)] := by
    simp only [Outline.ofMembers, Schema.readMap, readText_textOf, hversion, hagain, hresult,
      if_true]
  have hread : Schema.any.read maxDepth (Outline.ofJson
      (.object [("jsonrpc", .string rpcVersion), ("id", id), ("result", result)])) =
      .ok (.record [("result", result), ("id", again), ("jsonrpc", .string rpcVersion)]) := by
    rw [Outline.ofJson, Schema.read]
    change (Schema.any.readMap (maxDepth - 1) true [] _).map _ = _
    rw [hmembers]
    rfl
  refine ⟨_, decode_of_read hread rfl, ?_⟩
  rw [member?_record]
  rfl

/-- The text of an answer is found in the content of its result. -/
theorem answerText?_contentResult {json : Json} {name text : String} {members : Members}
    (hjson : json.member? "result" = some (contentResult name members))
    (htext : members.lookup "text" = some (.string text)) :
    answerText? name json = some text := by
  have hcontents : (contentResult name members).member? name = some (.array [.record members]) := by
    rw [contentResult, member?_record, List.lookup_cons_self]
  rw [answerText?, hjson]
  simp [hcontents, items?, member?_record, htext, string?]

/-! ## Replies -/

/-- What the text of a tool's result tells of a reply.  It is decoded to the reply where it is
written as JSON, for a document that was added behind a fixed first line; the other tools give a
sentence. -/
def ToolCall.Conveys : (toolCall : ToolCall) → toolCall.call.Reply → String → Prop
  | .addDocument _, (document : Document), text =>
    ∃ body, text = "Document added successfully:\n" ++ body ∧
      Json.decode Document (utf8Bytes body) = .ok document
  | .searchDocuments _, (reply : SearchReply), text =>
    Json.decode SearchReply (utf8Bytes text) = .ok reply
  | .addBatch _, (reply : AddBatchReply), text =>
    Json.decode AddBatchReply (utf8Bytes text) = .ok reply
  | .updateBatch _, (reply : UpdateBatchReply), text =>
    Json.decode UpdateBatchReply (utf8Bytes text) = .ok reply
  | .deleteBatch _, (reply : DeleteBatchReply), text =>
    Json.decode DeleteBatchReply (utf8Bytes text) = .ok reply
  | .getStats, (reply : Stats), text => Json.decode Stats (utf8Bytes text) = .ok reply
  | toolCall, reply, text => text = toolCall.render reply

/-- What the text of a resource tells of a reply.  That of a document is its content; any other is
decoded to the reply. -/
def ResourceTarget.Conveys : (target : ResourceTarget) → target.call.Reply → String → Prop
  | .health, (reply : Health), text => Json.decode Health (utf8Bytes text) = .ok reply
  | .stats, (reply : Stats), text => Json.decode Stats (utf8Bytes text) = .ok reply
  | .document _, (reply : Document), text => text = reply.contentMd
  | .search _, (reply : SearchReply), text =>
    Json.decode SearchReply (utf8Bytes text) = .ok reply

theorem decode_prettyText {α : Type} [Codec α] [Lossless α] (value : α)
    (hdepth : Lossless.depth α ≤ maxDepth := by decide) :
    Json.decode α (utf8Bytes (ToolCall.pretty value)) = .ok value := by
  rw [ToolCall.pretty, prettyString, utf8Bytes, String.toList_ofList]
  exact decode_pretty hdepth value

theorem decode_compactText {α : Type} [Codec α] [Lossless α] (value : α)
    (hdepth : Lossless.depth α ≤ maxDepth := by decide) :
    Json.decode α (utf8Bytes (toJson value).compactString) = .ok value := by
  rw [compactString, utf8Bytes, String.toList_ofList]
  exact Json.decode_encode hdepth value

/-- The text of a reply conveys it, for every tool. -/
theorem ToolCall.conveys_render (toolCall : ToolCall) (reply : toolCall.call.Reply) :
    toolCall.Conveys reply (toolCall.render reply) := by
  cases toolCall with
  | addDocument request => exact ⟨_, rfl, decode_prettyText (α := Document) reply⟩
  | searchDocuments request => exact decode_prettyText (α := SearchReply) reply
  | addBatch request => exact decode_prettyText (α := AddBatchReply) reply
  | updateBatch request => exact decode_prettyText (α := UpdateBatchReply) reply
  | deleteBatch request => exact decode_prettyText (α := DeleteBatchReply) reply
  | getStats => exact decode_prettyText (α := Stats) reply
  | _ => rfl

theorem ResourceTarget.conveys_render (target : ResourceTarget) (reply : target.call.Reply) :
    target.Conveys reply (target.render reply) := by
  cases target with
  | health => exact decode_compactText (α := Health) reply
  | stats => exact decode_compactText (α := Stats) reply
  | document request => rfl
  | search request => exact decode_compactText (α := SearchReply) reply

/-! ## Lines of the output -/

/-- Behind what had been written there is a line that is JSON, with a text in its result. -/
def AnswerHolds (earlier written : Bytes) (name text : String) : Prop :=
  ∃ answer later json, written = earlier ++ (answer ++ newline :: later) ∧ newline ∉ answer ∧
    Json.decode Json answer = .ok json ∧ answerText? name json = some text

/-- The response to the request on a line is written behind what was written for the lines
before. -/
theorem exists_serve_bytes (transport : Transport σ) {input : InputStream} (world : σ)
    {before after : List Bytes} {line : Bytes} (hlines : input.lines = before ++ line :: after)
    {request : RpcRequest} (hrequest : requestOfLine? line = some request)
    {response : RpcResponse}
    (hresponse : (handleRequest transport request
      (before.foldl (serveLine transport {}) ({}, world)).2).1 = some response) :
    ∃ later, (serve transport input {} world).1.bytes =
      (before.foldl (serveLine transport {}) ({}, world)).1.bytes ++
        (responseLine response ++ later) := by
  have hserve : (serve transport input {} world).1 =
      (input.lines.foldl (serveLine transport {}) ({}, world)).1 := by
    rw [serve, serveFrom_eq_foldl transport {} input.failure [] List.not_mem_nil]
    rfl
  rw [hserve, hlines, List.foldl_append, List.foldl_cons]
  generalize before.foldl (serveLine transport {}) ({}, world) = state at hresponse ⊢
  obtain ⟨written, reached⟩ := state
  simp only [serveLine_eq, foldl_serveLine_eq, hrequest, Option.toList_some, answerRequests,
    hresponse, Written.extend, List.append_assoc]
  rw [List.append_nil, List.flatMap_singleton]
  exact ⟨_, rfl⟩

/-- A request that takes one question, and whose call succeeds, is answered on its line with the
content that is made of the reply. -/
theorem answerHolds_of_asks (transport : Transport σ) {input : InputStream} (world : σ)
    {before after : List Bytes} {line : Bytes} (hlines : input.lines = before ++ line :: after)
    {request : RpcRequest} (hrequest : requestOfLine? line = some request) {id : Json}
    (hid : request.id = some id) {question : Question Json}
    (hasks : planRequest request.version request.method request.params = .ok (.asks question))
    {reply : question.call.Reply}
    (hreply : (transport.perform question.call
      (before.foldl (serveLine transport {}) ({}, world)).2).1 = .ok reply)
    {name text : String} {members : Members}
    (hrender : question.render reply = contentResult name members)
    (hstrings : ∀ member ∈ members, ∃ text, member.2 = .string text)
    (htext : members.lookup "text" = some (.string text)) :
    AnswerHolds (before.foldl (serveLine transport {}) ({}, world)).1.bytes
      (serve transport input {} world).1.bytes name text := by
  have hresponse := congrArg Prod.fst (handleRequest_of_asks hasks hid transport
    (before.foldl (serveLine transport {}) ({}, world)).2)
  rw [hreply] at hresponse
  change _ = some (RpcResponse.success (some id) (question.render reply)) at hresponse
  rw [hrender] at hresponse
  obtain ⟨later, hbytes⟩ := exists_serve_bytes transport world hlines hrequest hresponse
  obtain ⟨json, hjson, hresult⟩ := exists_decode_success (rereads_id hrequest hid)
    (readsBack_contentResult (show 3 ≤ maxDepth - 1 by decide) name hstrings)
  refine ⟨_, later, json, ?_, newline_not_mem_compact _, hjson,
    answerText?_contentResult hresult htext⟩
  rw [hbytes, responseLine, List.append_assoc]
  rfl

/-- Results reach the agent intact.  Whatever comes before and behind a request in the stream, and
whatever the store replies to it, the line that is written for it is JSON, the text in its result
is the one that was made of the reply, and the reply is decoded from that text. -/
theorem replies_reach_the_agent (transport : Transport σ) (input : InputStream) (world : σ)
    {before after : List Bytes} {line : Bytes} (hlines : input.lines = before ++ line :: after)
    {request : RpcRequest} (hrequest : requestOfLine? line = some request) {id : Json}
    (hid : request.id = some id) :
    let reached := before.foldl (serveLine transport {}) ({}, world)
    let written := (serve transport input {} world).1.bytes
    (∀ toolCall reply, request.CallsTool toolCall →
      (transport.perform toolCall.call reached.2).1 = .ok reply →
        ∃ text, AnswerHolds reached.1.bytes written "content" text ∧
          toolCall.Conveys reply text) ∧
    (∀ uri target reply, request.Reads uri target →
      (transport.perform target.call reached.2).1 = .ok reply →
        ∃ text, AnswerHolds reached.1.bytes written "contents" text ∧
          target.Conveys reply text) := by
  intro reached written
  constructor
  · intro toolCall reply hcalls hreply
    refine ⟨toolCall.render reply, ?_, toolCall.conveys_render reply⟩
    exact answerHolds_of_asks transport world hlines hrequest hid hcalls.planRequest_eq hreply
      rfl (by simp) rfl
  · intro uri target reply hreads hreply
    refine ⟨target.render reply, ?_, target.conveys_render reply⟩
    exact answerHolds_of_asks transport world hlines hrequest hid hreads.planRequest_eq hreply
      rfl (by simp) rfl

def readingLine : Bytes :=
  utf8Bytes ("\x7b\"jsonrpc\":\"2.0\",\"id\":1e300,\"method\":\"resources/read\"," ++
    "\"params\":\x7b\"uri\":\"mddb://guides/setup?lang=en_US\"\x7d\x7d")

def countingLine : Bytes :=
  utf8Bytes ("\x7b\"jsonrpc\":\"2.0\",\"id\":null,\"method\":\"tools/call\"," ++
    "\"params\":\x7b\"name\":\"get_stats\"\x7d\x7d")

theorem exists_readingRequest :
    ∃ request id, requestOfLine? readingLine = some request ∧ request.id = some id ∧
      request.Reads "mddb://guides/setup?lang=en_US"
        (.document ⟨"guides", "setup", "en_US", ∅⟩) := by
  have hseen : (requestOfLine? readingLine).map (fun request => (request.id.isSome,
      request.version, request.method, (request.param? "uri").bind string?)) =
      some (true, "2.0", "resources/read", some "mddb://guides/setup?lang=en_US") := by
    decide +kernel
  obtain ⟨request, hrequest, hsaid⟩ := Option.map_eq_some_iff.1 hseen
  obtain ⟨hid, hversion, hmethod, huri⟩ := by simpa only [Prod.mk.injEq] using hsaid
  obtain ⟨id, hid⟩ := Option.isSome_iff_exists.1 hid
  exact ⟨request, id, hrequest, hid,
    .intro hversion hmethod (RpcRequest.bind_string?_eq_some_iff.1 huri) rfl⟩

theorem exists_countingRequest :
    ∃ request id, requestOfLine? countingLine = some request ∧ request.id = some id ∧
      request.CallsTool .getStats := by
  have hseen : (requestOfLine? countingLine).map (fun request => (request.id.isSome,
      request.version, request.method, (request.param? "name").bind string?,
        (request.param? "arguments").isNone)) =
      some (true, "2.0", "tools/call", some "get_stats", true) := by
    decide +kernel
  obtain ⟨request, hrequest, hsaid⟩ := Option.map_eq_some_iff.1 hseen
  obtain ⟨hid, hversion, hmethod, hname, harguments⟩ := by simpa only [Prod.mk.injEq] using hsaid
  obtain ⟨id, hid⟩ := Option.isSome_iff_exists.1 hid
  exact ⟨request, id, hrequest, hid,
    .intro hversion hmethod (RpcRequest.bind_string?_eq_some_iff.1 hname)
      (.absent (Option.isNone_iff_eq_none.1 harguments)) rfl⟩

/-- A document that is stored is read as it is, and counted. -/
theorem stored_document_reaches_the_agent :
    let memory : Memory :=
      (Memory.transport.perform (.add ⟨"guides", "setup", "en_US", ∅, "Unpack.", false⟩) {}).2
    AnswerHolds [] (serve Memory.transport ⟨readingLine, none⟩ {} memory).1.bytes
        "contents" "Unpack." ∧
      ∃ text, AnswerHolds [] (serve Memory.transport ⟨countingLine, none⟩ {} memory).1.bytes
          "content" text ∧
        Json.decode Stats (utf8Bytes text) = .ok memory.store.stats := by
  intro memory
  have hlines {line : Bytes} (h : (line.all (· != newline)) = true) :
      InputStream.lines ⟨line, none⟩ = [] ++ line :: [] :=
    splitAll_newline_of_not_mem fun hmem => by simpa using List.all_eq_true.1 h newline hmem
  constructor
  · obtain ⟨request, id, hrequest, hid, hreads⟩ := exists_readingRequest
    obtain ⟨text, hanswer, htext⟩ := (replies_reach_the_agent Memory.transport
      ⟨readingLine, none⟩ memory (hlines (by decide +kernel)) hrequest hid).2 _ _ _ hreads rfl
    rw [htext] at hanswer
    exact hanswer
  · obtain ⟨request, id, hrequest, hid, hcalls⟩ := exists_countingRequest
    exact (replies_reach_the_agent Memory.transport ⟨countingLine, none⟩ memory
      (hlines (by decide +kernel)) hrequest hid).1 _ _ hcalls rfl

end DocBridge
