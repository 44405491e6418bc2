import DocBridge.Transport.Call
import DocBridge.Transport.Mode
import DocBridge.Transport.Status

/-!
# Failures of a transport

What can go wrong between a call and its reply, and the wording of it.
-/

namespace DocBridge

/-- Why an HTTP exchange has no reply: the address is no HTTP address, nothing could be sent to it,
or the body that came back is not the one that was expected. -/
inductive HttpFault where
  | builder (url : Option String)
  | sending (url : String)
  | decoding
deriving DecidableEq, Repr

def HttpFault.message : HttpFault → String
  | .builder none => "builder error"
  | .builder (some url) => "builder error for url (" ++ url ++ ")"
  | .sending url => "error sending request for url (" ++ url ++ ")"
  | .decoding => "error decoding response body"

/-- The failure of an operation, or of opening or closing a transport. -/
inductive TransportError where
  | connect (kind : TransportKind) (reason : String)
  | rpc (operation : Operation) (status : Status)
  | http (operation : Operation) (fault : HttpFault)
  | status (operation : Operation) (code : Nat) (body : String)
  | stream (operation : Operation) (reason : String)
  | backend (operation : Operation) (reason : String)
  | notClosed (reason : String)
  | close (failures : List String)
deriving DecidableEq, Repr

def TransportError.message : TransportError → String
  | .connect kind reason => "connect " ++ kind.name ++ ": " ++ reason
  | .rpc operation answer => operation.label ++ ": " ++ answer.message
  | .http operation fault => operation.label ++ ": " ++ fault.message
  | .status operation code body =>
    operation.label ++ ": request failed: status " ++ toString code ++ ": " ++ body
  | .stream operation reason => operation.label ++ ": stream error: " ++ reason
  | .backend operation reason => operation.label ++ ": " ++ reason
  | .notClosed reason => "close: " ++ reason
  | .close failures => "close errors: " ++ String.intercalate "; " failures

end DocBridge
