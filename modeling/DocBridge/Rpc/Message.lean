import DocBridge.Json.Codec

/-!
# JSON-RPC messages

Requests and responses of JSON-RPC 2.0.  A request without an id is a notification; an id that is
null is an id.
-/

namespace DocBridge

open Json

/-- The version that every message names. -/
def rpcVersion : String := "2.0"

structure RpcRequest where
  version : String := ""
  id : Option Json := none
  method : String
  params : Option Json := none
deriving Repr

/-- Whether nobody waits for a response. -/
def RpcRequest.isNotification (request : RpcRequest) : Bool := request.id.isNone

structure RpcError where
  code : Int32
  message : String
  data : Option Json := none
deriving Repr

structure RpcResponse where
  version : String := rpcVersion
  id : Option Json
  result : Option Json := none
  error : Option RpcError := none
deriving Repr

/-- The schema of a field whose absence is told from its name alone. -/
def absentByName (name : String) (α : Type) [Codec α] : String × Presence × Schema :=
  (name, .optionalByName, Codec.schema (Option α))

/-- A member that is left out when there is no value. -/
def ifSome {α : Type} [Codec α] (name : String) : Option α → Members
  | some value => [(name, toJson value)]
  | none => []

instance : Codec RpcRequest where
  schema := .record [optional "jsonrpc" String, optional "id" Json, required "method" String,
    optional "params" (Option Json)]
  toJson r := .object (always "jsonrpc" r.version ++ ifSome "id" r.id ++
    always "method" r.method ++ ifSome "params" r.params)
  ofJson? json := do
    let members ← json.members?
    return {
      version := ← fieldOr members "jsonrpc" ""
      id := members.lookup "id"
      method := ← field members "method"
      params := ← fieldOr members "params" none }

instance : Codec RpcError where
  schema := .record [required "code" Int32, required "message" String, absentByName "data" Json]
  toJson e := .object (always "code" e.code ++ always "message" e.message ++ ifSome "data" e.data)
  ofJson? json := do
    let members ← json.members?
    return {
      code := ← field members "code"
      message := ← field members "message"
      data := ← fieldOr members "data" none }

instance : Codec RpcResponse where
  schema := .record [required "jsonrpc" String, absentByName "id" Json,
    absentByName "result" Json, absentByName "error" RpcError]
  toJson r := .object (always "jsonrpc" r.version ++ ifSome "id" r.id ++
    ifSome "result" r.result ++ ifSome "error" r.error)
  ofJson? json := do
    let members ← json.members?
    return {
      version := ← field members "jsonrpc"
      id := ← fieldOr members "id" none
      result := ← fieldOr members "result" none
      error := ← fieldOr members "error" none }

namespace RpcResponse

def success (id : Option Json) (result : Json) : RpcResponse :=
  { id := id, result := some result }

def failure (id : Option Json) (code : Int32) (message : String) : RpcResponse :=
  { id := id, error := some { code := code, message := message } }

end RpcResponse

end DocBridge
