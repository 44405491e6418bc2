import DocBridge.Grpc.Channel

/-!
# A channel in use

Many calls share a channel, and it may be closed at any time.  For each of its messages a call takes
a handle, which is not to be had once the channel is closed.  With a handle in hand the message is
sent, whatever has become of the channel in the meantime.  Between any two steps of a call others
may take theirs.
-/

namespace DocBridge.Grpc

/-- The failure of an operation for which no handle is to be had. -/
def closedFailure (operation : Operation) : TransportError :=
  .backend operation "grpc transport is closed"

namespace Exchange

variable {σ α : Type}

def outcome? : Exchange α → Option (Except TransportError α)
  | .done outcome => some outcome
  | _ => none

/-- The path and the message that are to be sent next. -/
def message? : Exchange α → Option (String × Json)
  | .done _ => none
  | .send _ procedure message _ => some (procedurePath procedure.name, message)
  | .exportStream message _ => some (exportPath, message)

def refused : Exchange α → Exchange α
  | .done outcome => .done outcome
  | .send operation _ _ next => next (.error (closedFailure operation))
  | .exportStream _ next => next (.error (closedFailure .exportDocuments))

/-- What is left behind the next message, and what that leaves of the world. -/
def answered (wire : Wire σ) (world : σ) : Exchange α → Exchange α × σ
  | .done outcome => (.done outcome, world)
  | .send operation procedure message next =>
    let (answer, after) := wire.send procedure message world
    (next (answer.mapError (.rpc operation)), after)
  | .exportStream message next =>
    let (answer, after) := wire.sendExport message world
    (next (answer.mapError (.rpc .exportDocuments)), after)

end Exchange

namespace Sharing

variable {σ ι : Type}

/-- A call on its way: what is left of it, whether it has a handle for its next message, and the
paths and messages that have been sent for it. -/
structure Ongoing where
  call : Call
  rest : Exchange call.Reply
  hasHandle : Bool := false
  sent : List (String × Json) := []

namespace Ongoing

def ofCall (call : Call) : Ongoing := { call, rest := exchange call }

def equipped (ongoing : Ongoing) : Ongoing := { ongoing with hasHandle := true }

def refused (ongoing : Ongoing) : Ongoing := { ongoing with rest := ongoing.rest.refused }

/-- The call behind its next message, with which its handle is gone. -/
def answered (wire : Wire σ) (world : σ) (ongoing : Ongoing) : Ongoing where
  call := ongoing.call
  rest := (ongoing.rest.answered wire world).1
  sent := ongoing.sent ++ ongoing.rest.message?.toList

def isBack (ongoing : Ongoing) : Bool := ongoing.rest.outcome?.isSome

def failure? (ongoing : Ongoing) : Option TransportError :=
  match ongoing.rest.outcome? with
  | some (.error failure) => some failure
  | _ => none

end Ongoing

/-- A channel in use: the call of every caller, and what the closes so far have come to. -/
structure State (σ ι : Type) where
  channel : Channel σ
  calls : ι → Ongoing
  closes : List (Except TransportError Unit) := []

/-- Every caller is about to make a call. -/
def State.begin (channel : Channel σ) (requests : ι → Call) : State σ ι where
  channel := channel
  calls caller := .ofCall (requests caller)

/-- The call of one caller has come to something else. -/
def State.moved [DecidableEq ι] (state : State σ ι) (caller : ι) (ongoing : Ongoing) :
    State σ ι where
  channel := state.channel
  calls other := if other = caller then ongoing else state.calls other
  closes := state.closes

/-- One step of one call, or a close. -/
inductive Step [DecidableEq ι] (wire : Wire σ) : State σ ι → State σ ι → Prop where
  /-- A call takes a handle. -/
  | acquire {state : State σ ι} {caller : ι} (hfree : (state.calls caller).hasHandle = false)
      (hwaits : (state.calls caller).isBack = false) (hopen : state.channel.isOpen = true) :
      Step wire state (state.moved caller (state.calls caller).equipped)
  /-- A call finds the channel closed. -/
  | refuse {state : State σ ι} {caller : ι} (hfree : (state.calls caller).hasHandle = false)
      (hwaits : (state.calls caller).isBack = false) (hclosed : state.channel.isOpen = false) :
      Step wire state (state.moved caller (state.calls caller).refused)
  /-- A call sends its message with the handle that it has. -/
  | deliver {state : State σ ι} {caller : ι} (hhandle : (state.calls caller).hasHandle = true)
      (hwaits : (state.calls caller).isBack = false) :
      Step wire state
        { state.moved caller ((state.calls caller).answered wire state.channel.world) with
          channel := { state.channel with
            world := ((state.calls caller).rest.answered wire state.channel.world).2 } }
  /-- Somebody closes the channel, which may be closed already. -/
  | close {state : State σ ι} :
      Step wire state
        { state with
          channel := ((transport wire).close state.channel).2
          closes := state.closes ++ [((transport wire).close state.channel).1] }

end Sharing

end DocBridge.Grpc
