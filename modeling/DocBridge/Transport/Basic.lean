import DocBridge.Transport.Error

/-!
# Transports

A transport carries calls to a store and brings back replies.  It acts on a world: whatever its
calls can change.
-/

namespace DocBridge

/-- An exported collection: the chunks that arrived and, if the stream broke off, why. -/
structure ExportStream where
  chunks : List Bytes
  failure : Option TransportError := none
deriving DecidableEq, Repr

/-- What an operation replies. -/
abbrev Operation.Reply : Operation → Type
  | .health => Health
  | .stats => Stats
  | .add => Document
  | .addBatch => AddBatchReply
  | .updateBatch => UpdateBatchReply
  | .deleteBatch => DeleteBatchReply
  | .get => Document
  | .search => SearchReply
  | .delete => Unit
  | .deleteCollection => DeleteCollectionReply
  | .exportDocuments => ExportStream
  | .backup => BackupReply
  | .restore => RestoreReply
  | .truncate => TruncateReply

abbrev Call.Reply (call : Call) : Type := call.operation.Reply

abbrev Call.Outcome (call : Call) : Type := Except TransportError call.Reply

/-- A transport over a world. -/
structure Transport (σ : Type) where
  /-- Performs one call. -/
  perform : (call : Call) → σ → call.Outcome × σ
  /-- Releases what the transport holds. -/
  close : σ → Except TransportError Unit × σ

namespace Transport

variable {σ τ : Type}

/-- A transport that acts on a part of a larger world. -/
def within (part : τ → σ) (replace : σ → τ → τ) (transport : Transport σ) : Transport τ where
  perform call world :=
    let (outcome, after) := transport.perform call (part world)
    (outcome, replace after world)
  close world :=
    let (outcome, after) := transport.close (part world)
    (outcome, replace after world)

/-- A transport that also writes down the calls it is given. -/
def recorded (transport : Transport σ) : Transport (σ × List Call) where
  perform call world :=
    let (outcome, after) := transport.perform call world.1
    (outcome, after, world.2 ++ [call])
  close world :=
    let (outcome, after) := transport.close world.1
    (outcome, after, world.2)

end Transport

end DocBridge
