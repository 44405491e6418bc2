import DocBridge.Resource
import DocBridge.Rpc.Message
import DocBridge.Tool.Call
import DocBridge.Transport.Question

/-!
# Answering requests

The methods of the Model Context Protocol.  A request is decoded into a plan without the store;
carrying out the plan takes at most one operation.
-/

namespace DocBridge

open Json

def protocolVersion : String := "2024-11-05"

def serverName : String := "mddb-mcp"

def serverVersion : String := "0.3.0"

/-- What the server says about itself. -/
def initializeResult : Json :=
  .record [
    ("protocolVersion", .string protocolVersion),
    ("capabilities", .record [
      ("resources", .record [("subscribe", .bool false), ("listChanged", .bool false)]),
      ("tools", .record [("listChanged", .bool false)])]),
    ("serverInfo", .record [("name", .string serverName), ("version", .string serverVersion)])]

def toolList : Json :=
  .record [("tools", .array (Tool.all.map fun tool => (toJson tool.definition).sorted))]

def resourceList : Json :=
  .record [("resources", .array (resourceTemplates.map ResourceTemplate.toJson))]

def toolResult (text : String) : Json :=
  .record [("content",
    .array [.record [("type", .string "text"), ("text", .string text)]])]

def resourceResult (uri mimeType text : String) : Json :=
  .record [("contents", .array [.record [("uri", .string uri), ("mimeType", .string mimeType),
    ("text", .string text)]])]

/-- What calling a tool takes. -/
def toolQuestion (name : String) (arguments : Arguments) : Except BridgeError (Question Json) :=
  match ToolCall.decode name arguments with
  | .error failure => .error failure
  | .ok call => .ok ⟨call.call, fun reply => toolResult (call.render reply)⟩

def resourceQuestion (uri : String) : Except BridgeError (Question Json) :=
  match ResourceTarget.resolve uri with
  | .error failure => .error failure
  | .ok target =>
    .ok ⟨target.call, fun reply => resourceResult uri target.mimeType (target.render reply)⟩

/-- The arguments of a tool call: an object, or null or nothing for none. -/
def toolArguments : Option Json → Except BridgeError Arguments
  | some (.object members) => .ok members
  | some .null | none => .ok []
  | _ => .error (.invalidArgument "arguments" "must be an object")

/-- What a request to call a tool takes. -/
def planToolCall (params : Arguments) : Except BridgeError (Plan Json) :=
  match (params.get? "name").bind string? with
  | none => .error (.missingArgument "name")
  | some name =>
    match toolArguments (params.get? "arguments") with
    | .error failure => .error failure
    | .ok arguments => (toolQuestion name arguments).map .asks

def planResourceRead (params : Arguments) : Except BridgeError (Plan Json) :=
  match (params.get? "uri").bind string? with
  | none => .error (.missingArgument "uri")
  | some uri => (resourceQuestion uri).map .asks

/-- The parameters of a request.  Anything but an object stands for none. -/
def paramsOf : Option Json → Arguments
  | some (.object members) => members
  | _ => []

/-- Whether a method is a notification of the protocol. -/
def isNotificationMethod (method : String) : Bool :=
  "notifications/".toList.isPrefixOf method.toList

/-- What a method takes; none if there is no such method. -/
def planMethod (method : String) (params : Option Json) : Option (Except BridgeError (Plan Json)) :=
  match method with
  | "initialize" => some (.ok (.known initializeResult))
  | "ping" => some (.ok (.known (.object [])))
  | "resources/list" => some (.ok (.known resourceList))
  | "resources/read" => some (planResourceRead (paramsOf params))
  | "tools/list" => some (.ok (.known toolList))
  | "tools/call" => some (planToolCall (paramsOf params))
  | method => if isNotificationMethod method then some (.ok (.known .null)) else none

/-- The outcome of a request: a result, or the code and wording of a failure. -/
abbrev RpcOutcome := Except (Int32 × String) Json

def rpcFailure (failure : BridgeError) : RpcOutcome := .error (failure.code, failure.message)

/-- What a request takes: nothing if it is refused at once. -/
def planRequest (version method : String) (params : Option Json) :
    Except (Int32 × String) (Plan Json) :=
  if version ≠ rpcVersion then
    .error (BridgeError.invalidRequestCode, "Invalid JSON-RPC version")
  else
    match planMethod method params with
    | none => .error (BridgeError.methodNotFoundCode, "Method not found: " ++ method)
    | some (.error failure) => .error (failure.code, failure.message)
    | some (.ok plan) => .ok plan

/-- The outcome of a request and what it leaves of the world. -/
def carryOutRequest {σ : Type} (transport : Transport σ) (version method : String)
    (params : Option Json) (world : σ) : RpcOutcome × σ :=
  match planRequest version method params with
  | .error refusal => (.error refusal, world)
  | .ok plan =>
    match plan.carryOut transport world with
    | (.ok result, after) => (.ok result, after)
    | (.error failure, after) => (rpcFailure failure, after)

/-- The response that an outcome makes. -/
def RpcResponse.ofOutcome (id : Option Json) : RpcOutcome → RpcResponse
  | .ok result => .success id result
  | .error (code, message) => .failure id code message

/-- Handles a request.  A notification has the effect of a request and no response. -/
def handleRequest {σ : Type} (transport : Transport σ) (request : RpcRequest) (world : σ) :
    Option RpcResponse × σ :=
  let (outcome, after) :=
    carryOutRequest transport request.version request.method request.params world
  (if request.isNotification then none else some (.ofOutcome request.id outcome), after)

end DocBridge
