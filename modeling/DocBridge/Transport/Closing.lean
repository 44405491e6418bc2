import DocBridge.Transport.Failover

/-!
# Closing a client in use

A client may be closed by several callers at once, while others make calls.  A caller sets the flag
that the client is closed, and learns in the same step whether it was set before.  If it was, the
caller is done; if it was not, the caller closes the held transports one after the other and reports
what failed.  Between any two steps of a caller others may take theirs.
-/

namespace DocBridge

/-- The transports that a client holds, the active one first. -/
def FailoverClient.held {σ : Type} (client : FailoverClient σ) : List (Held σ) :=
  client.active :: client.fallback.toList

namespace Closing

variable {σ ι : Type}

/-- What a caller that closes a client is at: about to set the flag, closing the rest of the held
transports after some failures, or back with an outcome, either because the client was closed before
or because the caller has closed it. -/
inductive CloseCall (σ : Type) where
  | called
  | closing (failures : List String) (rest : List (Held σ))
  | passed
  | reported (outcome : Except TransportError Unit)

def CloseCall.outcome? : CloseCall σ → Option (Except TransportError Unit)
  | .passed => some (.ok ())
  | .reported outcome => some outcome
  | _ => none

def reportOf (failures : List String) : Except TransportError Unit :=
  if failures.isEmpty then .ok () else .error (.close failures)

/-- The close of a held transport: who closed it, and what came of it. -/
structure CloseEvent (σ ι : Type) where
  caller : ι
  held : Held σ
  outcome : Except TransportError Unit

/-- What is reported of a close that failed. -/
def CloseEvent.complaint? (event : CloseEvent σ ι) : Option String :=
  match event.outcome with
  | .ok () => none
  | .error failure => some ("close " ++ event.held.kind.name ++ ": " ++ failure.message)

/-- A client in use: the flag, the world of its transports, what every caller that closes the client
is at, and what has been closed so far. -/
structure State (σ ι : Type) where
  closed : Bool := false
  world : σ
  calls : ι → CloseCall σ := fun _ => .called
  events : List (CloseEvent σ ι) := []

def State.moved [DecidableEq ι] (state : State σ ι) (caller : ι) (call : CloseCall σ) :
    State σ ι where
  closed := state.closed
  world := state.world
  calls other := if other = caller then call else state.calls other
  events := state.events

/-- One step of one caller, or one call on a held transport. -/
inductive Step [DecidableEq ι] (client : FailoverClient σ) : State σ ι → State σ ι → Prop where
  /-- Somebody makes a call on a transport, on the way of a call on the client. -/
  | perform {state : State σ ι} {held : Held σ} (call : Call) (hheld : held ∈ client.held) :
      Step client state { state with world := (held.transport.perform call state.world).2 }
  /-- A caller sets the flag. -/
  | claim {state : State σ ι} {caller : ι} (hcall : state.calls caller = .called)
      (hopen : state.closed = false) :
      Step client state { state.moved caller (.closing [] client.held) with closed := true }
  /-- A caller finds the flag set. -/
  | pass {state : State σ ι} {caller : ι} (hcall : state.calls caller = .called)
      (hclosed : state.closed = true) : Step client state (state.moved caller .passed)
  /-- A caller closes the next transport. -/
  | close {state : State σ ι} {caller : ι} {failures : List String} {held : Held σ}
      {rest : List (Held σ)} (hcall : state.calls caller = .closing failures (held :: rest)) :
      Step client state
        { state.moved caller
            (.closing (failures ++ (FailoverClient.closeHeld held state.world).1) rest) with
          world := (FailoverClient.closeHeld held state.world).2
          events := state.events ++ [⟨caller, held, (held.transport.close state.world).1⟩] }
  /-- A caller that has closed all transports reports. -/
  | report {state : State σ ι} {caller : ι} {failures : List String}
      (hcall : state.calls caller = .closing failures []) :
      Step client state (state.moved caller (.reported (reportOf failures)))

end Closing

end DocBridge
