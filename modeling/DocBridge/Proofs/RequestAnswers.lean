import DocBridge.Proofs.RequestEffects

/-!
# Answers to requests

A request that calls a tool or reads a resource is answered with what is made of the reply to its
call, or with the failure of the call.
-/

namespace DocBridge

open Json

variable {σ : Type}

namespace RpcRequest

inductive CallsTool (request : RpcRequest) (toolCall : ToolCall) : Prop
  | intro {name : String} {arguments : Arguments} (hversion : request.version = "2.0")
      (hmethod : request.method = "tools/call")
      (hname : request.param? "name" = some (.string name))
      (harguments : request.Gives arguments)
      (hdecode : ToolCall.decode name arguments = .ok toolCall) : CallsTool request toolCall

inductive Reads (request : RpcRequest) (uri : String) (target : ResourceTarget) : Prop
  | intro (hversion : request.version = "2.0") (hmethod : request.method = "resources/read")
      (huri : request.param? "uri" = some (.string uri))
      (hresolve : ResourceTarget.resolve uri = .ok target) : Reads request uri target

theorem planRequest_of_planMethod {request : RpcRequest} {plan : Plan Json}
    (hversion : request.version = "2.0")
    (hplan : planMethod request.method request.params = some (.ok plan)) :
    planRequest request.version request.method request.params = .ok plan := by
  rw [planRequest, hversion, hplan]
  rfl

/-- A tool call is planned as its call, with the rendered reply for its result. -/
theorem CallsTool.planRequest_eq {request : RpcRequest} {toolCall : ToolCall}
    (h : request.CallsTool toolCall) :
    planRequest request.version request.method request.params =
      .ok (.asks ⟨toolCall.call, fun reply => toolResult (toolCall.render reply)⟩) := by
  obtain ⟨hversion, hmethod, hname, harguments, hdecode⟩ := h
  have hgiven := toolArguments_eq_ok_iff.2 harguments
  apply planRequest_of_planMethod hversion
  rw [hmethod]
  change some (planToolCall (paramsOf request.params)) = _
  rw [planToolCall_eq hname hgiven]
  simp [toolQuestion, hdecode, Except.map]

theorem Reads.planRequest_eq {request : RpcRequest} {uri : String} {target : ResourceTarget}
    (h : request.Reads uri target) :
    planRequest request.version request.method request.params =
      .ok (.asks ⟨target.call,
        fun reply => resourceResult uri target.mimeType (target.render reply)⟩) := by
  obtain ⟨hversion, hmethod, huri, hresolve⟩ := h
  apply planRequest_of_planMethod hversion
  rw [hmethod]
  change some (planResourceRead (paramsOf request.params)) = _
  rw [planResourceRead_eq huri]
  simp [resourceQuestion, hresolve, Except.map]

end RpcRequest

/-- What becomes of a question when its call has this outcome. -/
def Question.outcome (question : Question Json) (outcome : question.call.Outcome) : RpcOutcome :=
  match outcome with
  | .ok reply => .ok (question.render reply)
  | .error failure => rpcFailure (.transport failure)

/-- A request that takes one question is answered with what becomes of it. -/
theorem handleRequest_of_asks {request : RpcRequest} {question : Question Json}
    (h : planRequest request.version request.method request.params = .ok (.asks question))
    {id : Json} (hid : request.id = some id) (transport : Transport σ) (world : σ) :
    handleRequest transport request world =
      (some (.ofOutcome (some id)
        (question.outcome (transport.perform question.call world).1)),
        (transport.perform question.call world).2) := by
  simp only [handleRequest, carryOutRequest, h, Plan.carryOut, Question.ask,
    RpcRequest.isNotification, hid]
  cases transport.perform question.call world with
  | mk outcome after => cases outcome <;> rfl

end DocBridge
