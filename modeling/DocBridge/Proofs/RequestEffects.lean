import DocBridge.Rpc.Dispatch
import DocBridge.Transport.Memory

/-!
# Effects of requests

What a request does to the store is fixed before the store is asked: the request plans one call or
none, and its effect is that of the planned call.  The main statement says which requests plan
none, and that any other makes exactly the call that its tool call or resource stands for.
-/

namespace DocBridge

open Json

variable {σ : Type}

/-! ## The planned call -/

def Plan.call? {α : Type} : Plan α → Option Call
  | .known _ => none
  | .asks question => some question.call

/-- The call that a request makes, if it makes one. -/
def RpcRequest.plannedCall? (request : RpcRequest) : Option Call :=
  match planRequest request.version request.method request.params with
  | .error _ => none
  | .ok plan => plan.call?

def Transport.worldAfter (transport : Transport σ) (call? : Option Call) (world : σ) : σ :=
  match call? with
  | none => world
  | some call => (transport.perform call world).2

/-- Carrying out a plan changes the world by its call alone. -/
theorem Plan.carryOut_world {α : Type} (transport : Transport σ) (plan : Plan α) (world : σ) :
    (plan.carryOut transport world).2 = transport.worldAfter plan.call? world := by
  cases plan with
  | known answer => rfl
  | asks question =>
    simp only [Plan.carryOut, Question.ask, Plan.call?, Transport.worldAfter]
    split <;> simp_all

theorem Transport.recorded_perform (transport : Transport σ) (call : Call) (world : σ)
    (calls : List Call) :
    transport.recorded.perform call (world, calls) =
      ((transport.perform call world).1, (transport.perform call world).2, calls ++ [call]) := rfl

/-- Writing down the calls changes neither the answer nor the world. -/
theorem Plan.carryOut_recorded {α : Type} (transport : Transport σ) (plan : Plan α) (world : σ)
    (calls : List Call) :
    plan.carryOut transport.recorded (world, calls) =
      ((plan.carryOut transport world).1, (plan.carryOut transport world).2,
        calls ++ plan.call?.toList) := by
  cases plan with
  | known answer => simp [Plan.carryOut, Plan.call?]
  | asks question =>
    simp only [Plan.carryOut, Question.ask, Plan.call?, transport.recorded_perform,
      Option.toList_some]
    cases transport.perform question.call world with
    | mk outcome after => cases outcome <;> rfl

theorem handleRequest_world (transport : Transport σ) (request : RpcRequest) (world : σ) :
    (handleRequest transport request world).2 =
      transport.worldAfter request.plannedCall? world := by
  simp only [handleRequest, carryOutRequest, RpcRequest.plannedCall?]
  cases planRequest request.version request.method request.params with
  | error refusal => rfl
  | ok plan =>
    simp only [← plan.carryOut_world transport world]
    cases plan.carryOut transport world with
    | mk outcome after => cases outcome <;> rfl

/-- A request that is handled while calls are written down gets the same response, leaves the same
world, and adds its planned call. -/
theorem handleRequest_recorded (transport : Transport σ) (request : RpcRequest) (world : σ)
    (calls : List Call) :
    handleRequest transport.recorded request (world, calls) =
      ((handleRequest transport request world).1, (handleRequest transport request world).2,
        calls ++ request.plannedCall?.toList) := by
  simp only [handleRequest, carryOutRequest, RpcRequest.plannedCall?]
  cases planRequest request.version request.method request.params with
  | error refusal => simp
  | ok plan =>
    simp only [plan.carryOut_recorded]
    cases plan.carryOut transport world with
    | mk outcome after => cases outcome <;> rfl

/-! ## What a request asks for -/

/-- The call that stands for a tool call: the operation of its tool with its own request. -/
inductive ToolCall.Means : ToolCall → Call → Prop
  | addDocument (request : AddRequest) : Means (.addDocument request) (.add request)
  | searchDocuments (request : SearchRequest) :
      Means (.searchDocuments request) (.search request)
  | deleteDocument (request : DeleteRequest) : Means (.deleteDocument request) (.delete request)
  | deleteCollection (request : DeleteCollectionRequest) :
      Means (.deleteCollection request) (.deleteCollection request)
  | addBatch (request : WriteBatch) : Means (.addBatch request) (.addBatch request)
  | updateBatch (request : WriteBatch) : Means (.updateBatch request) (.updateBatch request)
  | deleteBatch (request : DeleteBatch) : Means (.deleteBatch request) (.deleteBatch request)
  | getStats : Means .getStats .stats
  | exportDocuments (request : ExportRequest) :
      Means (.exportDocuments request) (.exportDocuments request)
  | createBackup (request : BackupRequest) : Means (.createBackup request) (.backup request)
  | restoreBackup (request : RestoreRequest) : Means (.restoreBackup request) (.restore request)
  | truncateRevisions (request : TruncateRequest) :
      Means (.truncateRevisions request) (.truncate request)

inductive ResourceTarget.Means : ResourceTarget → Call → Prop
  | health : Means .health .health
  | stats : Means .stats .stats
  | document (request : GetRequest) : Means (.document request) (.get request)
  | search (request : SearchRequest) : Means (.search request) (.search request)

theorem ToolCall.means_iff (toolCall : ToolCall) (call : Call) :
    toolCall.Means call ↔ toolCall.call = call := by
  constructor
  · intro hmeans
    cases hmeans <;> rfl
  · rintro rfl
    cases toolCall <;> constructor

theorem ResourceTarget.means_iff (target : ResourceTarget) (call : Call) :
    target.Means call ↔ target.call = call := by
  constructor
  · intro hmeans
    cases hmeans <;> rfl
  · rintro rfl
    cases target <;> constructor

namespace RpcRequest

def param? (request : RpcRequest) (name : String) : Option Json :=
  (paramsOf request.params).get? name

/-- The arguments that a request gives to a tool: the members of an object, or none where there is
null or nothing. -/
inductive Gives (request : RpcRequest) : Arguments → Prop
  | members {members : Json.Members} (h : request.param? "arguments" = some (.object members)) :
      Gives request members
  | null (h : request.param? "arguments" = some .null) : Gives request []
  | absent (h : request.param? "arguments" = none) : Gives request []

/-- A request that asks the store for one call. -/
inductive Asks (request : RpcRequest) : Call → Prop
  | tool {name : String} {arguments : Arguments} {toolCall : ToolCall} {call : Call}
      (hversion : request.version = "2.0") (hmethod : request.method = "tools/call")
      (hname : request.param? "name" = some (.string name))
      (harguments : request.Gives arguments)
      (hdecode : ToolCall.decode name arguments = .ok toolCall)
      (hmeans : toolCall.Means call) : Asks request call
  | resource {uri : String} {target : ResourceTarget} {call : Call}
      (hversion : request.version = "2.0") (hmethod : request.method = "resources/read")
      (huri : request.param? "uri" = some (.string uri))
      (hresolve : ResourceTarget.resolve uri = .ok target)
      (hmeans : target.Means call) : Asks request call

/-- A request that asks the store for nothing. -/
inductive Refused (request : RpcRequest) : Prop
  | version (hversion : request.version ≠ "2.0") : Refused request
  | method (htool : request.method ≠ "tools/call") (hresource : request.method ≠ "resources/read") :
      Refused request
  | name (hmethod : request.method = "tools/call")
      (hname : ∀ name, request.param? "name" ≠ some (.string name)) : Refused request
  | arguments (hmethod : request.method = "tools/call") {value : Json}
      (hvalue : request.param? "arguments" = some value) (hnull : value ≠ .null)
      (hobject : ∀ members, value ≠ .object members) : Refused request
  | unknownTool (hmethod : request.method = "tools/call") {name : String}
      (hname : request.param? "name" = some (.string name))
      (hunknown : ∀ tool ∈ Tool.all, tool.name ≠ name) : Refused request
  | toolCall (hmethod : request.method = "tools/call") {name : String} {arguments : Arguments}
      {failure : BridgeError} (hname : request.param? "name" = some (.string name))
      (harguments : request.Gives arguments)
      (hdecode : ToolCall.decode name arguments = .error failure) : Refused request
  | uri (hmethod : request.method = "resources/read")
      (huri : ∀ uri, request.param? "uri" ≠ some (.string uri)) : Refused request
  | target (hmethod : request.method = "resources/read") {uri : String} {failure : BridgeError}
      (huri : request.param? "uri" = some (.string uri))
      (hresolve : ResourceTarget.resolve uri = .error failure) : Refused request

/-! ## Planning agrees with what is asked -/

theorem plannedCall?_of_planMethod {request : RpcRequest}
    {plan : Except BridgeError (Plan Json)} (hversion : request.version = "2.0")
    (hplan : planMethod request.method request.params = some plan) :
    request.plannedCall? = plan.toOption.bind Plan.call? := by
  rw [plannedCall?, planRequest, hversion, hplan]
  cases plan <;> rfl

theorem plannedCall?_toolCall {request : RpcRequest} (hversion : request.version = "2.0")
    (hmethod : request.method = "tools/call") :
    request.plannedCall? =
      (planToolCall (paramsOf request.params)).toOption.bind Plan.call? := by
  apply plannedCall?_of_planMethod hversion
  rw [hmethod]
  rfl

theorem plannedCall?_resourceRead {request : RpcRequest} (hversion : request.version = "2.0")
    (hmethod : request.method = "resources/read") :
    request.plannedCall? =
      (planResourceRead (paramsOf request.params)).toOption.bind Plan.call? := by
  apply plannedCall?_of_planMethod hversion
  rw [hmethod]
  rfl

theorem plannedCall?_of_version_ne {request : RpcRequest} (hversion : request.version ≠ "2.0") :
    request.plannedCall? = none := by
  have hversion' : request.version ≠ rpcVersion := hversion
  rw [plannedCall?, planRequest, if_pos hversion']

/-- Methods other than the two that ask the store are unknown, or answered from what is known. -/
theorem planMethod_of_ne {method : String} (htool : method ≠ "tools/call")
    (hresource : method ≠ "resources/read") (params : Option Json) :
    planMethod method params = none ∨
      ∃ answer, planMethod method params = some (.ok (.known answer)) := by
  unfold planMethod
  split <;> simp_all

theorem plannedCall?_of_method_ne {request : RpcRequest} (htool : request.method ≠ "tools/call")
    (hresource : request.method ≠ "resources/read") : request.plannedCall? = none := by
  by_cases hversion : request.version = "2.0"
  · rcases planMethod_of_ne htool hresource request.params with hplan | ⟨answer, hplan⟩
    · rw [plannedCall?, planRequest, hversion, hplan]
      rfl
    · rw [plannedCall?_of_planMethod hversion hplan]
      rfl
  · exact plannedCall?_of_version_ne hversion

theorem bind_string?_eq_some_iff {value : Option Json} {text : String} :
    value.bind string? = some text ↔ value = some (.string text) := by
  cases value with
  | none => simp
  | some json => cases json <;> simp [string?]

theorem planToolCall_eq {params : Arguments} {name : String}
    (hname : params.get? "name" = some (.string name)) {arguments : Arguments}
    (harguments : toolArguments (params.get? "arguments") = .ok arguments) :
    planToolCall params = (toolQuestion name arguments).map .asks := by
  rw [planToolCall, bind_string?_eq_some_iff.2 hname, harguments]

theorem planResourceRead_eq {params : Arguments} {uri : String}
    (huri : params.get? "uri" = some (.string uri)) :
    planResourceRead params = (resourceQuestion uri).map .asks := by
  rw [planResourceRead, bind_string?_eq_some_iff.2 huri]

theorem toolArguments_eq_ok_iff {request : RpcRequest} {arguments : Arguments} :
    toolArguments (request.param? "arguments") = .ok arguments ↔ request.Gives arguments := by
  constructor
  · intro hgiven
    cases hvalue : request.param? "arguments" with
    | none =>
      rw [hvalue] at hgiven
      cases hgiven
      exact .absent hvalue
    | some value =>
      rw [hvalue] at hgiven
      cases value <;> cases hgiven
      · exact .null hvalue
      · exact .members hvalue
  · intro hgives
    cases hgives with
    | members hvalue => rw [hvalue]; rfl
    | null hvalue => rw [hvalue]; rfl
    | absent hvalue => rw [hvalue]; rfl

theorem Asks.plannedCall? {request : RpcRequest} {call : Call} (h : request.Asks call) :
    request.plannedCall? = some call := by
  cases h with
  | tool hversion hmethod hname harguments hdecode hmeans =>
    have hgiven := toolArguments_eq_ok_iff.2 harguments
    rw [plannedCall?_toolCall hversion hmethod, planToolCall_eq hname hgiven]
    simp [toolQuestion, hdecode, Except.map, Except.toOption, Plan.call?,
      (ToolCall.means_iff _ _).1 hmeans]
  | resource hversion hmethod huri hresolve hmeans =>
    rw [plannedCall?_resourceRead hversion hmethod, planResourceRead_eq huri]
    simp [resourceQuestion, hresolve, Except.map, Except.toOption, Plan.call?,
      (ResourceTarget.means_iff _ _).1 hmeans]

theorem asks_of_toolCall {request : RpcRequest} {call : Call}
    (hversion : request.version = "2.0") (hmethod : request.method = "tools/call")
    (h : request.plannedCall? = some call) : request.Asks call := by
  rw [plannedCall?_toolCall hversion hmethod, planToolCall] at h
  cases hname : ((paramsOf request.params).get? "name").bind string? with
  | none => simp [hname, Except.toOption] at h
  | some name =>
    cases harguments : toolArguments ((paramsOf request.params).get? "arguments") with
    | error failure => simp [hname, harguments, Except.toOption] at h
    | ok arguments =>
      cases hdecode : ToolCall.decode name arguments with
      | error failure =>
        simp [hname, harguments, toolQuestion, hdecode, Except.map, Except.toOption] at h
      | ok toolCall =>
        have hcall : toolCall.call = call := by
          simpa [hname, harguments, toolQuestion, hdecode, Except.map, Except.toOption,
            Plan.call?] using h
        exact .tool hversion hmethod (bind_string?_eq_some_iff.1 hname)
          (toolArguments_eq_ok_iff.1 harguments) hdecode ((ToolCall.means_iff _ _).2 hcall)

theorem asks_of_resourceRead {request : RpcRequest} {call : Call}
    (hversion : request.version = "2.0") (hmethod : request.method = "resources/read")
    (h : request.plannedCall? = some call) : request.Asks call := by
  rw [plannedCall?_resourceRead hversion hmethod, planResourceRead] at h
  cases huri : ((paramsOf request.params).get? "uri").bind string? with
  | none => simp [huri, Except.toOption] at h
  | some uri =>
    cases hresolve : ResourceTarget.resolve uri with
    | error failure =>
      simp [huri, resourceQuestion, hresolve, Except.map, Except.toOption] at h
    | ok target =>
      have hcall : target.call = call := by
        simpa [huri, resourceQuestion, hresolve, Except.map, Except.toOption,
          Plan.call?] using h
      exact .resource hversion hmethod (bind_string?_eq_some_iff.1 huri) hresolve
        ((ResourceTarget.means_iff _ _).2 hcall)

/-- What is planned has been decoded first: every planned call is one that is asked for. -/
theorem asks_of_plannedCall? {request : RpcRequest} {call : Call}
    (h : request.plannedCall? = some call) : request.Asks call := by
  have hversion : request.version = "2.0" := Decidable.byContradiction fun hother => by
    simp [plannedCall?_of_version_ne hother] at h
  by_cases htool : request.method = "tools/call"
  · exact asks_of_toolCall hversion htool h
  · have hresource : request.method = "resources/read" :=
      Decidable.byContradiction fun hother => by
        simp [plannedCall?_of_method_ne htool hother] at h
    exact asks_of_resourceRead hversion hresource h

theorem Gives.unique {request : RpcRequest} {arguments other : Arguments}
    (h : request.Gives arguments) (hother : request.Gives other) : arguments = other := by
  cases h <;> cases hother <;> simp_all

theorem decode_unknown {name : String} (hunknown : ∀ tool ∈ Tool.all, tool.name ≠ name)
    (arguments : Arguments) : ToolCall.decode name arguments = .error (.unknownTool name) := by
  rw [ToolCall.decode, Tool.ofName?_eq_none_iff.2 hunknown]

/-- No request is refused and asks for a call as well. -/
theorem Refused.not_asks {request : RpcRequest} {call : Call} (h : request.Refused) :
    ¬ request.Asks call := by
  intro hasks
  cases hasks with
  | tool hversion hmethod hname harguments hdecode hmeans =>
    cases h with
    | version hother => exact hother hversion
    | method htool hresource => exact htool hmethod
    | name _ hnone => exact hnone _ hname
    | arguments _ hvalue hnull hobject =>
      cases harguments with
      | members hgiven => exact hobject _ (Option.some.inj (hvalue.symm.trans hgiven))
      | null hgiven => exact hnull (Option.some.inj (hvalue.symm.trans hgiven))
      | absent hgiven => simp [hgiven] at hvalue
    | unknownTool _ hother hunknown =>
      simp only [hname, Option.some.injEq, string.injEq] at hother
      subst hother
      simp [decode_unknown hunknown] at hdecode
    | toolCall _ hother hgives hfailure =>
      simp only [hname, Option.some.injEq, string.injEq] at hother
      subst hother
      cases harguments.unique hgives
      simp [hdecode] at hfailure
    | uri hother _ => simp [hmethod] at hother
    | target hother _ _ => simp [hmethod] at hother
  | resource hversion hmethod huri hresolve hmeans =>
    cases h with
    | version hother => exact hother hversion
    | method htool hresource => exact hresource hmethod
    | name hother _ => simp [hmethod] at hother
    | arguments hother _ _ _ => simp [hmethod] at hother
    | unknownTool hother _ _ => simp [hmethod] at hother
    | toolCall hother _ _ _ => simp [hmethod] at hother
    | uri _ hnone => exact hnone _ huri
    | target _ hother hfailure =>
      simp only [huri, Option.some.injEq, string.injEq] at hother
      subst hother
      simp [hresolve] at hfailure

theorem exists_gives_of_not_refused {request : RpcRequest} (h : ¬ request.Refused)
    (hmethod : request.method = "tools/call") : ∃ arguments, request.Gives arguments := by
  cases hvalue : request.param? "arguments" with
  | none => exact ⟨[], .absent hvalue⟩
  | some value =>
    cases value with
    | null => exact ⟨[], .null hvalue⟩
    | object members => exact ⟨members, .members hvalue⟩
    | _ => exact absurd (.arguments hmethod hvalue nofun nofun) h

/-- A request that is not refused asks for a call. -/
theorem asks_of_not_refused {request : RpcRequest} (h : ¬ request.Refused) :
    ∃ call, request.Asks call := by
  have hversion : request.version = "2.0" :=
    Decidable.byContradiction fun hother => h (.version hother)
  by_cases htool : request.method = "tools/call"
  · obtain ⟨name, hname⟩ : ∃ name, request.param? "name" = some (.string name) :=
      Classical.byContradiction fun hnone =>
        h (.name htool fun name hname => hnone ⟨name, hname⟩)
    obtain ⟨arguments, harguments⟩ := exists_gives_of_not_refused h htool
    cases hdecode : ToolCall.decode name arguments with
    | error failure => exact absurd (.toolCall htool hname harguments hdecode) h
    | ok toolCall =>
      exact ⟨toolCall.call, .tool hversion htool hname harguments hdecode
        ((ToolCall.means_iff _ _).2 rfl)⟩
  · have hresource : request.method = "resources/read" :=
      Decidable.byContradiction fun hother => h (.method htool hother)
    obtain ⟨uri, huri⟩ : ∃ uri, request.param? "uri" = some (.string uri) :=
      Classical.byContradiction fun hnone =>
        h (.uri hresource fun uri huri => hnone ⟨uri, huri⟩)
    cases hresolve : ResourceTarget.resolve uri with
    | error failure => exact absurd (.target hresource huri hresolve) h
    | ok target =>
      exact ⟨target.call, .resource hversion hresource huri hresolve
        ((ResourceTarget.means_iff _ _).2 rfl)⟩

theorem Refused.plannedCall? {request : RpcRequest} (h : request.Refused) :
    request.plannedCall? = none := by
  cases hcall : request.plannedCall? with
  | none => rfl
  | some call => exact absurd (asks_of_plannedCall? hcall) h.not_asks

/-- Reading a resource asks for nothing that writes. -/
theorem Asks.operation_of_resource {request : RpcRequest} {call : Call} (h : request.Asks call)
    (hmethod : request.method = "resources/read") :
    call.operation ∈ [Operation.health, .stats, .get, .search] := by
  cases h with
  | tool _ hother _ _ _ _ => simp [hmethod] at hother
  | resource _ _ _ _ hmeans => cases hmeans <;> simp [Call.operation]

end RpcRequest

/-- Operations that read leave the store as it was. -/
theorem Memory.store_perform_of_read {call : Call} (memory : Memory)
    (h : call.operation ∈ [Operation.health, .stats, .get, .search]) :
    (Memory.perform call memory).2.store = memory.store := by
  simp only [Memory.perform]
  split
  · rfl
  · cases call <;> simp [Call.operation] at h <;>
      simp [Memory.answer, Memory.unchanged]
    split <;> rfl

def callsMade (transport : Transport σ) (request : RpcRequest) (world : σ) : List Call :=
  (handleRequest transport.recorded request (world, [])).2.2

/-- Handling a request makes the call that is planned for it, and no other. -/
theorem callsMade_eq (transport : Transport σ) (request : RpcRequest) (world : σ) :
    callsMade transport request world = request.plannedCall?.toList := by
  rw [callsMade, handleRequest_recorded, List.nil_append]

/-- A request that is wrong in any way makes no call and leaves the world as it was.  Any other
makes one call, that of the tool call or resource it was decoded to, and its effect is that of the
call.  Reading a resource makes no call that writes, and leaves a store in memory as it was. -/
theorem handleRequest_validates_before_one_call (transport : Transport σ) (request : RpcRequest)
    (world : σ) :
    (request.Refused →
      (handleRequest transport request world).2 = world ∧
        callsMade transport request world = []) ∧
    (¬ request.Refused →
      ∃ call, request.Asks call ∧ (∀ other, request.Asks other → other = call) ∧
        (handleRequest transport request world).2 = (transport.perform call world).2 ∧
        callsMade transport request world = [call]) ∧
    (request.method = "resources/read" →
      (∀ call ∈ callsMade transport request world,
        call.operation ∈ [Operation.health, .stats, .get, .search]) ∧
      ∀ memory : Memory, (handleRequest Memory.transport request memory).2.store = memory.store)
    := by
  simp only [handleRequest_world, callsMade_eq]
  refine ⟨fun hrefused => ?_, fun hrefused => ?_, fun hmethod => ⟨?_, fun memory => ?_⟩⟩
  · rw [hrefused.plannedCall?]
    exact ⟨rfl, rfl⟩
  · obtain ⟨call, hasks⟩ := RpcRequest.asks_of_not_refused hrefused
    have hcall := hasks.plannedCall?
    refine ⟨call, hasks, fun other hother => ?_, ?_, ?_⟩
    · exact Option.some.inj (hother.plannedCall?.symm.trans hcall)
    · rw [hcall]
      rfl
    · rw [hcall]
      rfl
  · intro call hmem
    have hcall : request.plannedCall? = some call := by simpa using hmem
    exact (RpcRequest.asks_of_plannedCall? hcall).operation_of_resource hmethod
  · cases hcall : request.plannedCall? with
    | none => rfl
    | some call =>
      have hread := (RpcRequest.asks_of_plannedCall? hcall).operation_of_resource hmethod
      exact memory.store_perform_of_read hread

def deletionRequest : RpcRequest where
  version := "2.0"
  id := some .null
  method := "tools/call"
  params := some (.object [("name", .string "delete_document"),
    ("arguments", .object [("collection", .string "guides"), ("key", .string "setup"),
      ("lang", .string "en_US")])])

theorem deletionRequest_makes_one_call :
    (RpcRequest.Refused { deletionRequest with version := "1.0" } ∧
      callsMade Memory.transport { deletionRequest with version := "1.0" } {} = []) ∧
    (¬ deletionRequest.Refused ∧
      callsMade Memory.transport deletionRequest {} = [.delete ⟨"guides", "setup", "en_US"⟩]) ∧
    (handleRequest Memory.transport { deletionRequest with method := "resources/read" } {}).2.store
      = {} := by
  have hwrong : RpcRequest.Refused { deletionRequest with version := "1.0" } :=
    .version (by decide)
  have hasks : deletionRequest.Asks (.delete ⟨"guides", "setup", "en_US"⟩) :=
    .tool rfl rfl rfl (.members rfl) rfl (.deleteDocument _)
  have hright : ¬ deletionRequest.Refused := fun hrefused => hrefused.not_asks hasks
  obtain ⟨call, _, hunique, _, hcalls⟩ :=
    (handleRequest_validates_before_one_call Memory.transport deletionRequest {}).2.1 hright
  refine ⟨⟨hwrong, ?_⟩, ⟨hright, ?_⟩, ?_⟩
  · exact ((handleRequest_validates_before_one_call Memory.transport _ {}).1 hwrong).2
  · rw [hcalls, hunique _ hasks]
  · exact ((handleRequest_validates_before_one_call Memory.transport
      { deletionRequest with method := "resources/read" } {}).2.2 rfl).2 {}

/-- A tool that needs no arguments is called also when there is no member for them. -/
theorem absent_arguments_are_no_refusal :
    ({ deletionRequest with params := some (.object [("name", .string "get_stats")]) }).param?
        "arguments" = none ∧
      callsMade Memory.transport
        { deletionRequest with params := some (.object [("name", .string "get_stats")]) } {} =
        [.stats] := by
  rw [callsMade_eq]
  exact ⟨rfl, rfl⟩

end DocBridge
