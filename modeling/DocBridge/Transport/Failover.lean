import DocBridge.Transport.Basic

/-!
# Failover

A client holds one or two transports.  Every call goes to the active one; if it fails and there is
a fallback, the same call is made once on the fallback, whose outcome stands.  Nothing that a call
does changes which transport is which.  A client closes its transports once.
-/

namespace DocBridge

structure Held (σ : Type) where
  kind : TransportKind
  transport : Transport σ

/-- A client of one or two transports.  It is degraded if the primary of its mode could not be
had. -/
structure FailoverClient (σ : Type) where
  mode : TransportMode
  active : Held σ
  fallback : Option (Held σ)
  degraded : Bool

/-- The world of a client: whether it has been closed, and the world of its transports. -/
structure ClientWorld (σ : Type) where
  closed : Bool := false
  world : σ
deriving DecidableEq, Repr

/-- What builds transports, one at a time, with a state of its own. -/
structure Factory (τ σ : Type) where
  create : TransportKind → τ → Except TransportError (Transport σ) × τ

def Factory.recorded {τ σ : Type} (factory : Factory τ σ) :
    Factory (τ × List TransportKind) σ where
  create kind state :=
    let (outcome, after) := factory.create kind state.1
    (outcome, after, state.2 ++ [kind])

def TransportMode.requested (mode : TransportMode) : List TransportKind :=
  mode.primary :: mode.secondary.toList

namespace FailoverClient

variable {σ τ : Type}

def single (mode : TransportMode) (kind : TransportKind) (transport : Transport σ)
    (degraded : Bool) : FailoverClient σ :=
  ⟨mode, ⟨kind, transport⟩, none, degraded⟩

/-- The client of a mode with a fallback, out of what came of building its two transports. -/
def settle (mode : TransportMode) (fallback : TransportKind)
    (first second : Except TransportError (Transport σ)) :
    Except TransportError (FailoverClient σ) :=
  match first, second with
  | .ok first, .ok second => .ok ⟨mode, ⟨mode.primary, first⟩, some ⟨fallback, second⟩, false⟩
  | .error _, .ok second => .ok (single mode fallback second true)
  | .ok first, .error _ => .ok (single mode mode.primary first false)
  | .error failure, .error second =>
    .error (.connect mode.primary
      (failure.message ++ "; fallback " ++ fallback.name ++ " also failed: " ++ second.message))

/-- Opens a client with the transports that can be had.  It fails only if none of those that its
mode names can. -/
def connect (mode : TransportMode) (factory : Factory τ σ) (state : τ) :
    Except TransportError (FailoverClient σ) × τ :=
  let (first, afterFirst) := factory.create mode.primary state
  match mode.secondary with
  | none => (first.map fun transport => single mode mode.primary transport false, afterFirst)
  | some fallback =>
    let (second, afterSecond) := factory.create fallback afterFirst
    (settle mode fallback first second, afterSecond)

/-- A client of transports at hand.  The second is the fallback if the mode has one. -/
def compose (mode : TransportMode) (first : Transport σ) (second : Option (Transport σ)) :
    FailoverClient σ :=
  let fallback := match second, mode.secondary with
    | some transport, some kind => some ⟨kind, transport⟩
    | _, _ => none
  ⟨mode, ⟨mode.primary, first⟩, fallback, false⟩

/-- Makes a call on the active transport, and on the fallback if that fails. -/
def perform (client : FailoverClient σ) (call : Call) (world : σ) : call.Outcome × σ :=
  match client.active.transport.perform call world with
  | (.ok reply, after) => (.ok reply, after)
  | (.error failure, after) =>
    match client.fallback with
    | some fallback => fallback.transport.perform call after
    | none => (.error failure, after)

def closeHeld (held : Held σ) (world : σ) : List String × σ :=
  match held.transport.close world with
  | (.ok (), after) => ([], after)
  | (.error failure, after) => (["close " ++ held.kind.name ++ ": " ++ failure.message], after)

/-- Closes every held transport, the active one first, and reports all that fail. -/
def closeAll (client : FailoverClient σ) (world : σ) : Except TransportError Unit × σ :=
  let (first, afterFirst) := closeHeld client.active world
  let (second, afterSecond) := match client.fallback with
    | some fallback => closeHeld fallback afterFirst
    | none => ([], afterFirst)
  let failures := first ++ second
  (if failures.isEmpty then .ok () else .error (.close failures), afterSecond)

/-- The client as a transport.  Only the first close does anything. -/
def transport (client : FailoverClient σ) : Transport (ClientWorld σ) where
  perform call state :=
    let (outcome, after) := client.perform call state.world
    (outcome, { state with world := after })
  close state :=
    if state.closed then (.ok (), state)
    else
      let (outcome, after) := client.closeAll state.world
      (outcome, ⟨true, after⟩)

end FailoverClient

end DocBridge
