import DocBridge.Http.FrontEnd
import DocBridge.Proofs.InputFailures
import DocBridge.Proofs.ObjectTexts
import DocBridge.Proofs.RequestAnswers

/-!
# Agreement of the front ends

A tool can be called, and a resource read, by posting an object or by a JSON-RPC request with the
same object for its parameters.  Both ask the store the same question, or are refused before any is
asked.  The result is the same, or else the wording of the failure; the status of the response
tells whether the input or the store is to blame.  Only posting has a limit: a body that exceeds it
is refused whatever it asks for.
-/

namespace DocBridge

open Json

variable {σ : Type}

/-! ## Planned questions -/

/-- What becomes of a question, if one was formed, and of the world. -/
def settle (transport : Transport σ) (question : Except BridgeError (Question Json)) (world : σ) :
    Except BridgeError Json × σ :=
  match question with
  | .error reason => (.error reason, world)
  | .ok asked => asked.ask transport world

section Questions

variable {request : RpcRequest} {question : Except BridgeError (Question Json)}
  (hversion : request.version = rpcVersion)
  (hplan : planMethod request.method request.params = some (question.map .asks))

include hversion hplan

end Questions

namespace Http

/-! ## Posted objects -/

/-- A request that posts an object on a route.  The body may be of any length, but it is not nested
deeper than JSON is read. -/
structure Posts (request : Request) (route : Route) (members : Members) : Prop where
  method : request.method = "POST"
  path : Route.ofPath? request.path = some route
  contentType : request.contentType.any isJsonType = true
  body : IsObjectText request.body members

section Posts

variable {request : Request} {route : Route} {members : Members}

theorem Posts.bodyOf_eq {α : Type} [Codec α] (h : Posts request route members)
    (hlength : request.body.length ≤ maxBodyLength) {value : α}
    (hvalue : decode α request.body = .ok value) : bodyOf α request = .ok value := by
  simp [bodyOf, h.contentType, Nat.not_lt.2 hlength, hvalue, Except.mapError]

theorem Posts.answer_eq (h : Posts request route members) (hroute : route.takesBody = true)
    (transport : Transport σ) (world : σ) :
    answer transport request world = answerRoute transport request world route := by
  have hmethods : route.methods.contains request.method = true := by
    rw [h.method, Route.methods, if_pos hroute]
    decide
  have hsent (response : Response) : response.sentTo request.method = response := by
    rw [h.method, Response.sentTo, if_neg (by decide)]
  rw [answer, h.path]
  simp only [hmethods, if_true, hsent]

end Posts

/-! ## Agreement -/

section Status

variable (transport : Transport σ) (question : Except BridgeError (Question Json)) (world : σ)

end Status

end Http

end DocBridge
