import DocBridge.Grpc.Backend
import DocBridge.Proofs.MessageFields
import DocBridge.Proofs.StoreIdentity

/-!
# What exchanges come to

An exchange that goes on from another one is run one after the other, and writing down its messages
changes nothing.  Over a channel to a store in memory every exchange then comes to what the store
itself would do with the request.
-/

namespace DocBridge.Grpc

/-! ## Runs -/

section Runs

variable {σ α β : Type} (wire : Wire σ)

theorem carry_of_open (operation : Operation) (send : σ → Except Status α × σ) (world : σ) :
    Channel.carry operation send { world } =
      ((send world).1.mapError (.rpc operation), { world := (send world).2 }) := by
  simp only [Channel.carry, if_true]
  rcases send world with ⟨status | answer, after⟩ <;> rfl

/-- Over an open channel a message is answered by the wire, and a status is a failure of the
operation. -/
theorem run_send (operation : Operation) (procedure : Procedure) (message : Json)
    (next : Except TransportError Json → Exchange α) (world : σ) :
    Channel.run wire (.send operation procedure message next) { world } =
      Channel.run wire (next ((wire.send procedure message world).1.mapError (.rpc operation)))
        { world := (wire.send procedure message world).2 } := by
  rw [Channel.run, carry_of_open]

theorem run_exportStream (message : Json) (next : Except TransportError Chunks → Exchange α)
    (world : σ) :
    Channel.run wire (.exportStream message next) { world } =
      Channel.run wire (next ((wire.sendExport message world).1.mapError (.rpc .exportDocuments)))
        { world := (wire.sendExport message world).2 } := by
  rw [Channel.run, carry_of_open]

/-- A channel runs exchanges one after the other. -/
theorem run_andThen (exchange : Exchange α) (next : Except TransportError α → Exchange β)
    (channel : Channel σ) :
    channel.run wire (exchange.andThen next) =
      (channel.run wire exchange).2.run wire (next (channel.run wire exchange).1) := by
  induction exchange generalizing channel with
  | done outcome => rfl
  | send operation procedure message continuation ih => exact ih _ _
  | exportStream message continuation ih => exact ih _ _

/-- Writing down what is sent changes nothing else. -/
theorem run_recorded (exchange : Exchange α) (world : σ) (log : List (String × Json)) :
    (Channel.run wire.recorded exchange { world := (world, log) }).1 =
        (Channel.run wire exchange { world }).1 ∧
      (Channel.run wire.recorded exchange { world := (world, log) }).2.world.1 =
        (Channel.run wire exchange { world }).2.world := by
  induction exchange generalizing world log with
  | done outcome => exact ⟨rfl, rfl⟩
  | send operation procedure message continuation ih =>
    rw [run_send, run_send]
    exact ih _ _ _
  | exportStream message continuation ih =>
    rw [run_exportStream, run_exportStream]
    exact ih _ _ _

/-- One message and its answer. -/
theorem run_ask {ρ : Type} [Message ρ] [Message α] (operation : Operation) (procedure : Procedure)
    (request : ρ) (world : σ) :
    Channel.run wire (.ask (α := α) operation procedure request) { world } =
      (((wire.send procedure (encode request) world).1.mapError (.rpc operation)).map decode,
        { world := (wire.send procedure (encode request) world).2 }) := by
  rw [Exchange.ask, run_send]
  rfl

section Asking

variable {ρ : Type} [Message ρ] [Message α] (operation : Operation) {procedure : Procedure}
  {request : ρ} {world after : σ}

/-- A message that is answered with a reply comes to that reply. -/
theorem run_ask_of_reply [LosslessMessage α] {reply : α}
    (h : wire.send procedure (encode request) world = (.ok (encode reply), after)) :
    Channel.run wire (.ask operation procedure request) { world } =
      (.ok reply, { world := after }) := by
  rw [run_ask, h]
  simp only [Except.mapError, Except.map, decode_encode]

/-- A message that is answered with a status comes to a failure. -/
theorem run_ask_of_status {status : Status}
    (h : wire.send procedure (encode request) world = (.error status, after)) :
    Channel.run wire (.ask (α := α) operation procedure request) { world } =
      (.error (.rpc operation status), { world := after }) := by
  rw [run_ask, h]
  rfl

end Asking

end Runs

/-! ## A store in memory -/

namespace Backend

variable (backend : Backend)

theorem wire_send (procedure : Procedure) (message : Json) :
    Backend.wire.send procedure message backend = backend.answer procedure message := rfl

theorem wire_sendExport (message : Json) :
    Backend.wire.sendExport message backend =
      (.ok (backend.chunks (decode message)), backend) := rfl

theorem send_get (request : GetRequest) :
    Backend.wire.send .get (encode request) backend = backend.get request := by
  rw [wire_send, answer, decode_encode]

theorem send_search (request : SearchRequest) :
    Backend.wire.send .search (encode request) backend = backend.search request := by
  rw [wire_send, answer, decode_encode]

theorem send_deleteBatch (request : DeleteBatch) :
    Backend.wire.send .deleteBatch (encode request) backend =
      backend.changed (backend.store.deleteBatch request) := by
  rw [wire_send, answer, decode_encode]

section Asking

variable {ρ α : Type} [Message ρ] [LosslessMessage ρ] [Message α] [LosslessMessage α]
  (operation : Operation) (procedure : Procedure)

/-- A message that only reads the store comes to the reply for the request it was made of. -/
theorem run_ask_unchanged (reply : ρ → α)
    (h : ∀ message, backend.answer procedure message = backend.unchanged (reply (decode message)))
    (request : ρ) :
    Channel.run Backend.wire (.ask operation procedure request) { world := backend } =
      (.ok (reply request), { world := backend }) := by
  have hsend : Backend.wire.send procedure (encode request) backend =
      (.ok (encode (reply request)), backend) := by
    rw [wire_send, h, decode_encode, unchanged]
  exact run_ask_of_reply Backend.wire operation hsend

/-- A message that writes to the store comes to what the request it was made of leaves. -/
theorem run_ask_changed (reply : ρ → α × Store)
    (h : ∀ message, backend.answer procedure message = backend.changed (reply (decode message)))
    (request : ρ) :
    Channel.run Backend.wire (.ask operation procedure request) { world := backend } =
      (.ok (reply request).1, { world := { backend with store := (reply request).2 } }) := by
  have hsend : Backend.wire.send procedure (encode request) backend =
      (.ok (encode (reply request).1), { backend with store := (reply request).2 }) := by
    rw [wire_send, h, decode_encode, changed]
  exact run_ask_of_reply Backend.wire operation hsend

end Asking

end Backend

end DocBridge.Grpc
