import DocBridge.Transport.Error

/-!
# Failures of a request

A request of an agent fails because the store does, or because of what the agent asked for.
-/

namespace DocBridge

/-- Why a request has no result. -/
inductive BridgeError where
  | transport (failure : TransportError)
  | unknownTool (name : String)
  | missingArgument (name : String)
  | invalidArgument (name reason : String)
  | invalidUri (reason : String)
  | protocol (reason : String)
deriving DecidableEq, Repr

namespace BridgeError

def message : BridgeError → String
  | .transport failure => failure.message
  | .unknownTool name => "unknown tool: " ++ name
  | .missingArgument name => "missing required argument: " ++ name
  | .invalidArgument name reason => "invalid argument '" ++ name ++ "': " ++ reason
  | .invalidUri reason => "invalid uri: " ++ reason
  | .protocol reason => "protocol error: " ++ reason

/-- Whether the agent's input is to blame rather than the store. -/
def isInputError : BridgeError → Bool
  | .transport _ => false
  | _ => true

def invalidRequestCode : Int32 := -32600

def methodNotFoundCode : Int32 := -32601

/-- The JSON-RPC code of a request that was understood and failed. -/
def applicationCode : Int32 := -32000

def code : BridgeError → Int32
  | .protocol _ => invalidRequestCode
  | _ => applicationCode

/-- A batch that is not sent is an invalid list of documents. -/
def ofBatchError (failure : BatchError) : BridgeError :=
  .invalidArgument "documents" failure.message

end BridgeError

end DocBridge
