import DocBridge.Grpc.Channel
import DocBridge.Rest.Transport
import DocBridge.Transport.Failover

/-!
# Clients over both wires

A client for a store that is reached by gRPC at one address and by REST at another.
-/

namespace DocBridge

/-- What carries the messages of both wires. -/
structure Wires (σ : Type) where
  grpc : Grpc.Wire σ
  rest : Rest.Wire σ

/-- Where the store is. -/
structure StoreAddress where
  grpc : String
  rest : String
deriving DecidableEq, Repr

namespace Wires

variable {σ : Type}

def open? (wires : Wires σ) (address : StoreAddress) :
    TransportKind → Except TransportError (Transport (Grpc.Channel σ))
  | .grpc => Grpc.connect wires.grpc address.grpc
  | .rest => .ok ((Rest.transport wires.rest address.rest).within (·.world)
      fun world channel => { channel with world })

/-- What opens the transports.  Opening one exchanges nothing with the store. -/
def factory (wires : Wires σ) (address : StoreAddress) : Factory Unit (Grpc.Channel σ) where
  create kind state := (wires.open? address kind, state)

/-- Opens a client of a mode. -/
def connect (wires : Wires σ) (address : StoreAddress) (mode : TransportMode) :
    Except TransportError (FailoverClient (Grpc.Channel σ)) :=
  (FailoverClient.connect mode (wires.factory address) ()).1

/-- The wires when nothing listens at their ends. -/
def unreachable : Wires Unit where
  grpc :=
    ⟨fun _ _ world => (.error .unreachable, world), fun _ world => (.error .unreachable, world)⟩
  rest _ world := (none, world)

end Wires

end DocBridge
