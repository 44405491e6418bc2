import DocBridge.Grpc.Exchange
import DocBridge.Url.HttpUri

/-!
# Channels to a gRPC store

A channel carries messages until it is closed.  Opening one only checks its address; whether a store
is there shows when the first message is sent.
-/

namespace DocBridge.Grpc

/-- What carries messages: how a world answers to one. -/
structure Wire (σ : Type) where
  /-- Sends a message for one answer. -/
  send : Procedure → Json → σ → Except Status Json × σ
  /-- Sends a message for a stream of chunks. -/
  sendExport : Json → σ → Except Status Chunks × σ

/-- A wire that ends nowhere. -/
def Wire.severed {σ : Type} : Wire σ where
  send _ _ world := (.error .undeliverable, world)
  sendExport _ world := (.error .undeliverable, world)

/-- A wire that also writes down the path and the message of whatever it is given. -/
def Wire.recorded {σ : Type} (wire : Wire σ) : Wire (σ × List (String × Json)) where
  send procedure message world :=
    let (answer, after) := wire.send procedure message world.1
    (answer, after, world.2 ++ [(procedurePath procedure.name, message)])
  sendExport message world :=
    let (answer, after) := wire.sendExport message world.1
    (answer, after, world.2 ++ [(exportPath, message)])

/-- A channel over a world. -/
structure Channel (σ : Type) where
  isOpen : Bool := true
  world : σ
deriving DecidableEq, Repr

namespace Channel

variable {σ α : Type}

/-- Sends something for an operation if the channel is open. -/
def carry (operation : Operation) (send : σ → Except Status α × σ) (channel : Channel σ) :
    Except TransportError α × Channel σ :=
  if channel.isOpen then
    match send channel.world with
    | (.ok answer, after) => (.ok answer, { channel with world := after })
    | (.error status, after) => (.error (.rpc operation status), { channel with world := after })
  else (.error (.backend operation "grpc transport is closed"), channel)

/-- Runs an exchange over a channel. -/
def run (wire : Wire σ) : Exchange α → Channel σ → Except TransportError α × Channel σ
  | .done outcome, channel => (outcome, channel)
  | .send operation procedure message next, channel =>
    let (answer, after) := channel.carry operation (wire.send procedure message)
    run wire (next answer) after
  | .exportStream message next, channel =>
    let (answer, after) := channel.carry .exportDocuments (wire.sendExport message)
    run wire (next answer) after

def close (channel : Channel σ) : Channel σ := { channel with isOpen := false }

end Channel

/-- The transport over a channel. -/
def transport {σ : Type} (wire : Wire σ) : Transport (Channel σ) where
  perform call channel := channel.run wire (exchange call)
  close channel := (.ok (), channel.close)

def hasScheme : List Char → Bool
  | [] => false
  | text@(_ :: rest) => "://".toList.isPrefixOf text || hasScheme rest

/-- The address of a store, with the scheme that is left out of most. -/
def endpoint (address : String) : String :=
  if hasScheme address.toList then address else "http://" ++ address

/-- Opens a transport to an address, which has to be the address of an HTTP request.  One that is a
mere path leads nowhere. -/
def connect {σ : Type} (wire : Wire σ) (address : String) :
    Except TransportError (Transport (Channel σ)) :=
  if !HttpUri.isValid (endpoint address) then
    .error (.connect .grpc ("invalid endpoint " ++ address ++ ": invalid URI"))
  else .ok (transport (if HttpUri.isPath (endpoint address) then .severed else wire))

end DocBridge.Grpc
