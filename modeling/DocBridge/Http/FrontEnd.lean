import DocBridge.Rpc.Dispatch
import DocBridge.Text.Split

/-!
# The HTTP front end

Tools, resources and JSON-RPC requests over HTTP.  The body of a request is JSON, says so in its
content type and is not longer than two mebibytes.  A failure is a JSON object with an `error`:
status 400 if the input is to blame, 500 if the store is, 503 if the store is not well.
-/

namespace DocBridge.Http

open Json

structure Request where
  method : String
  path : String
  contentType : Option String
  body : Bytes
deriving DecidableEq, Repr

/-- A response of the front end.  `allow` names the methods of a path that was asked with another
one. -/
structure Response where
  status : Nat
  contentType : Option String := none
  body : Option Json := none
  allow : Option String := none
deriving Repr

/-- What the front end offers. -/
inductive Route where
  | health
  | rpc
  | resources
  | resourceRead
  | tools
  | toolCall
deriving DecidableEq, Repr

namespace Route

def all : List Route := [.health, .rpc, .resources, .resourceRead, .tools, .toolCall]

def path : Route → String
  | .health => "/health"
  | .rpc => "/mcp"
  | .resources => "/mcp/resources"
  | .resourceRead => "/mcp/resources/read"
  | .tools => "/mcp/tools"
  | .toolCall => "/mcp/tools/call"

/-- Whether a route is asked with a body. -/
def takesBody : Route → Bool
  | .health | .resources | .tools => false
  | .rpc | .resourceRead | .toolCall => true

def methods (route : Route) : List String :=
  if route.takesBody then ["POST"] else ["GET", "HEAD"]

/-- The route of a path.  A query behind it does not count. -/
def ofPath? (path : String) : Option Route :=
  let bare := String.ofList (path.toList.takeWhile (· ≠ '?'))
  all.find? fun route => route.path == bare

end Route

/-- The body of a request to read a resource. -/
structure ResourceBody where
  uri : String
deriving DecidableEq, Repr

structure ToolBody where
  name : String
  arguments : Arguments
deriving Repr

instance : Codec ResourceBody where
  schema := .record [required "uri" String]
  toJson b := .object (always "uri" b.uri)
  ofJson? json := do
    let members ← json.members?
    return { uri := ← field members "uri" }

/-- Without arguments, or with null for them, there are none. -/
instance : Codec ToolBody where
  schema := .record [required "name" String,
    ("arguments", .optional, .nullable (.map .any))]
  toJson b := .object (always "name" b.name ++ [("arguments", .object b.arguments)])
  ofJson? json := do
    let members ← json.members?
    return {
      name := ← field members "name"
      arguments := ((members.lookup "arguments").bind members?).getD [] }

/-- Whether a content type is one of JSON: `application/json`, or any with the suffix `+json`. -/
def isJsonType (contentType : String) : Bool :=
  let (essence, _) := splitFirst (· = ';') contentType.toList
  let (kind, subtype) := splitFirst (· = '/') ((trim (· = ' ') essence).map Char.toLower)
  String.ofList kind == "application" && subtype.any fun subtype =>
    String.ofList subtype == "json" || "+json".toList.isSuffixOf subtype

/-- The number of bytes that a body may have. -/
def maxBodyLength : Nat := 2097152

/-- Why a body is not taken. -/
inductive Rejection where
  | contentType
  | tooLong
  | body (fault : Fault)
deriving DecidableEq, Repr

def Rejection.message : Rejection → String
  | .contentType => "Expected request with `Content-Type: application/json`"
  | .tooLong => "Failed to buffer the request body: length limit exceeded"
  | .body .malformed => "Failed to parse the request body as JSON"
  | .body .mismatch => "Failed to deserialize the JSON body into the target type"

/-- The value in the body of a request.  A body that is too long is not read as JSON at all. -/
def bodyOf (α : Type) [Codec α] (request : Request) : Except Rejection α :=
  if !request.contentType.any isJsonType then .error .contentType
  else if maxBodyLength < request.body.length then .error .tooLong
  else (decode α request.body).mapError .body

def respond (status : Nat) (value : Json) : Response :=
  { status, contentType := some "application/json", body := some value }

def failure (status : Nat) (message : String) : Response :=
  respond status (.object [("error", .string message)])

def success (value : Json) : Response := respond 200 value

/-- The status of a failure: the input's or the store's. -/
def statusOf (reason : BridgeError) : Nat := if reason.isInputError then 400 else 500

/-- The response to the outcome of a question. -/
def ofOutcome : Except BridgeError Json → Response
  | .ok value => success value
  | .error reason => failure (statusOf reason) reason.message

/-- Asks a question, if there is one. -/
def answerQuestion {σ : Type} (transport : Transport σ)
    (question : Except BridgeError (Question Json)) (world : σ) : Response × σ :=
  match question with
  | .error reason => (ofOutcome (.error reason), world)
  | .ok question =>
    let (outcome, after) := question.ask transport world
    (ofOutcome outcome, after)

/-- Answers from the value in a body, if there is one. -/
def withBody {σ α : Type} [Codec α] (request : Request) (answer : α → σ → Response × σ)
    (world : σ) : Response × σ :=
  match bodyOf α request with
  | .error rejection => (failure 400 rejection.message, world)
  | .ok value => answer value world

def ofHealth : Except TransportError Health → Response
  | .ok health => success (toJson health)
  | .error reason => failure 503 reason.message

def ofRpc : Option RpcResponse → Response
  | some response => success (toJson response)
  | none => { status := 202 }

/-- Answers on a route. -/
def answerRoute {σ : Type} (transport : Transport σ) (request : Request) (world : σ) :
    Route → Response × σ
  | .health =>
    let (outcome, after) := transport.perform .health world
    (ofHealth outcome, after)
  | .resources => (success resourceList, world)
  | .tools => (success toolList, world)
  | .resourceRead =>
    withBody request (fun (body : ResourceBody) world =>
      answerQuestion transport (resourceQuestion body.uri) world) world
  | .toolCall =>
    withBody request (fun (body : ToolBody) world =>
      answerQuestion transport (toolQuestion body.name body.arguments) world) world
  | .rpc =>
    withBody request (fun (rpc : RpcRequest) world =>
      let (response, after) := handleRequest transport rpc world
      (ofRpc response, after)) world

/-- The response as it is sent to a request of a method: a request for the head alone gets no
body. -/
def Response.sentTo (method : String) (response : Response) : Response :=
  if method = "HEAD" then { response with body := none } else response

def answer {σ : Type} (transport : Transport σ) (request : Request) (world : σ) :
    Response × σ :=
  match Route.ofPath? request.path with
  | none => ({ status := 404 }, world)
  | some route =>
    if route.methods.contains request.method then
      let (response, after) := answerRoute transport request world route
      (response.sentTo request.method, after)
    else ({ status := 405, allow := some (",".intercalate route.methods) }, world)

end DocBridge.Http
