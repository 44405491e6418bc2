import DocBridge.BridgeError
import DocBridge.Transport.Basic

/-!
# Questions

What has been decided before the store is asked: one call, and what is made of its reply.  Deciding
it needs no store, so that whatever is wrong with a request is found before anything happens.
-/

namespace DocBridge

/-- One call and what is made of its reply. -/
structure Question (α : Type) where
  call : Call
  render : call.Reply → α

namespace Question

variable {α β σ : Type}

/-- A question whose answer is processed further. -/
def map (f : α → β) (question : Question α) : Question β where
  call := question.call
  render reply := f (question.render reply)

/-- Asks the store. -/
def ask (transport : Transport σ) (question : Question α) (world : σ) : Except BridgeError α × σ :=
  match transport.perform question.call world with
  | (.ok reply, after) => (.ok (question.render reply), after)
  | (.error failure, after) => (.error (.transport failure), after)

end Question

/-- An answer that is known, or a question to the store. -/
inductive Plan (α : Type) where
  | known (answer : α)
  | asks (question : Question α)

namespace Plan

variable {α σ : Type}

/-- The answer, with what asking for it leaves of the world. -/
def carryOut (transport : Transport σ) : Plan α → σ → Except BridgeError α × σ
  | .known answer, world => (.ok answer, world)
  | .asks question, world => question.ask transport world

end Plan

end DocBridge
