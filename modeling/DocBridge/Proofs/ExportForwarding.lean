import DocBridge.Proofs.GrpcExchanges
import DocBridge.Transport.Forwarding
import Mathlib.Logic.Relation

/-!
# Forwarding loses nothing

Whatever the order in which the task and the consumer take their steps, the consumer receives the
items of the source in their order, and all of them if it reads to the end.  What is received, what
is in the channel and what is yet to come make up the items of the source; and every item in the
channel stands in a place that was granted for it, so that there are never more than there is room
for.
-/

namespace DocBridge

namespace Forwarding

variable {operation : Operation} {source : Source} {state next later : State}

/-! ## What is still to come -/

/-- The items behind one, given what is left of the source: none behind a failure. -/
def followers (operation : Operation) (source : Source) : ExportItem → List ExportItem
  | .ok _ => delivered operation source
  | .error _ => []

/-- The items that have not been put into the channel. -/
def Reader.ahead (operation : Operation) (source : Source) : Reader → List ExportItem
  | .reading => delivered operation source
  | .waiting item | .granted item => item :: followers operation source item
  | .done => []

theorem delivered_cons (item : Except String Bytes) (rest : Source) :
    delivered operation (item :: rest) =
      itemOf operation item :: followers operation rest (itemOf operation item) := by
  cases item <;> rfl

theorem ahead_behind (item : ExportItem) :
    (Reader.behind item).ahead operation source = followers operation source item := by
  cases item <;> rfl

/-! ## What every step keeps -/

/-- How many granted places the task holds for an item that it has not put. -/
def Reader.held : Reader → Nat
  | .granted _ => 1
  | _ => 0

/-- How many places the consumer has yet to make free. -/
def Consumer.owed : Consumer → Nat
  | .releasing => 1
  | _ => 0

theorem held_behind (item : ExportItem) : (Reader.behind item).held = 0 := by
  cases item <;> rfl

/-- What holds of an export all the way. -/
structure Faithful (operation : Operation) (source : Source) (state : State) : Prop where
  /-- Every place in the channel is free, granted, filled, or about to be freed. -/
  places : state.room + state.reader.held + state.channel.length + state.consumer.owed = capacity
  /-- As long as somebody reads, no item is lost. -/
  whole : state.consumer ≠ .gone →
    state.received ++ state.channel ++ state.reader.ahead operation state.source =
      delivered operation source
  begun : state.received <+: delivered operation source
  ended : state.consumer = .ended → state.channel = [] ∧ state.reader = .done

theorem faithful_start (source : Source) : Faithful operation source { source } where
  places := rfl
  whole _ := rfl
  begun := List.nil_prefix
  ended := nofun

theorem Faithful.not_ended (h : Faithful operation source state) (hreader : state.reader ≠ .done) :
    state.consumer ≠ .ended :=
  fun hended => hreader (h.ended hended).2

/-- No step loses, repeats or reorders an item, nor lets the channel overflow. -/
theorem Faithful.step (h : Faithful operation source state) (hstep : Step operation state next) :
    Faithful operation source next := by
  have hplaces := h.places
  cases hstep with
  | pull hreader hsource =>
    have hended := h.not_ended (by simp [hreader])
    refine ⟨?_, fun hconsumer => ?_, h.begun, fun hconsumer => absurd hconsumer hended⟩
    · simpa [hreader, Reader.held] using hplaces
    · simpa [hreader, hsource, Reader.ahead, delivered_cons] using h.whole hconsumer
  | exhaust hreader hsource =>
    have hended := h.not_ended (by simp [hreader])
    refine ⟨?_, fun hconsumer => ?_, h.begun, fun hconsumer => absurd hconsumer hended⟩
    · simpa [hreader, Reader.held] using hplaces
    · simpa [hreader, hsource, Reader.ahead, delivered] using h.whole hconsumer
  | reserve hreader hconsumer hroom =>
    have hended := h.not_ended (by simp [hreader])
    refine ⟨?_, fun hconsumer => ?_, h.begun, fun hconsumer => absurd hconsumer hended⟩
    · simpa [hreader, hroom, Reader.held] using hplaces
    · simpa [hreader, Reader.ahead] using h.whole hconsumer
  | refuse hreader hconsumer =>
    refine ⟨?_, fun hreads => absurd hconsumer hreads, h.begun, fun hended => ?_⟩
    · simpa [hreader, Reader.held] using hplaces
    · cases hconsumer.symm.trans hended
  | @put item hreader =>
    have hended := h.not_ended (by simp [hreader])
    refine ⟨?_, fun hconsumer => ?_, h.begun, fun hconsumer => absurd hconsumer hended⟩
    · rw [hreader, Reader.held] at hplaces
      simp only [held_behind, List.length_append, List.length_singleton]
      omega
    · have hwhole := h.whole hconsumer
      rw [hreader, Reader.ahead] at hwhole
      simpa [ahead_behind] using hwhole
  | take hconsumer hchannel =>
    -- The item goes from the front of the channel to the end of what is received.
    have hwhole := h.whole (by simp [hconsumer])
    refine ⟨?_, fun _ => ?_, ?_, nofun⟩
    · simp only [hconsumer, hchannel, Consumer.owed, List.length_cons] at hplaces ⊢
      omega
    · simpa [hchannel] using hwhole
    · exact ⟨_, by simpa [hchannel] using hwhole⟩
  | release hconsumer =>
    refine ⟨?_, fun _ => h.whole (by simp [hconsumer]), h.begun, nofun⟩
    simp only [hconsumer, Consumer.owed] at hplaces ⊢
    omega
  | finish hconsumer hchannel hreader =>
    refine ⟨?_, fun _ => h.whole (by simp [hconsumer]), h.begun, fun _ => ⟨hchannel, hreader⟩⟩
    simpa [hconsumer, Consumer.owed] using hplaces
  | drop hconsumer =>
    refine ⟨?_, fun hgone => absurd rfl hgone, h.begun, nofun⟩
    rcases hconsumer with hconsumer | hconsumer <;>
      simpa [hconsumer, Consumer.owed] using hplaces
  | discard hconsumer hchannel =>
    refine ⟨?_, fun hreads => absurd hconsumer hreads, h.begun, fun hended => ?_⟩
    · simp only [hchannel, List.length_cons] at hplaces ⊢
      omega
    · cases hconsumer.symm.trans hended

abbrev Run (operation : Operation) : State → State → Prop :=
  Relation.ReflTransGen (Step operation)

theorem faithful_of_run (h : Run operation { source } state) :
    Faithful operation source state := by
  induction h with
  | refl => exact faithful_start source
  | tail _ hstep ih => exact ih.step hstep

theorem Faithful.length_channel_le (h : Faithful operation source state) :
    state.channel.length ≤ capacity := by
  have hplaces := h.places
  omega

/-- A consumer that has seen the end of the stream has seen all of it. -/
theorem Faithful.received_of_ended (h : Faithful operation source state)
    (hended : state.consumer = .ended) : state.received = delivered operation source := by
  obtain ⟨hchannel, hreader⟩ := h.ended hended
  simpa [hchannel, hreader, Reader.ahead] using h.whole (by simp [hended])

/-! ## Reading to the end -/

/-- As long as the consumer reads and has not come to the end, something else can happen than that
it drops the stream.  The task only waits for room while there are items to take. -/
theorem Faithful.exists_step (h : Faithful operation source state)
    (hended : state.consumer ≠ .ended) (hgone : state.consumer ≠ .gone) :
    ∃ next, Step operation state next ∧ next.consumer ≠ .gone := by
  cases hconsumer : state.consumer with
  | ended => exact absurd hconsumer hended
  | gone => exact absurd hconsumer hgone
  | releasing => exact ⟨_, .release hconsumer, nofun⟩
  | taking =>
    cases hchannel : state.channel with
    | cons item rest => exact ⟨_, .take hconsumer hchannel, nofun⟩
    | nil =>
      cases hreader : state.reader with
      | reading =>
        cases hsource : state.source with
        | nil => exact ⟨_, .exhaust hreader hsource, hgone⟩
        | cons item rest => exact ⟨_, .pull hreader hsource, hgone⟩
      | waiting item =>
        -- Nothing is in the channel and nobody holds a place, so that all places are free.
        have hroom : state.room = capacity := by
          simpa [hreader, hchannel, hconsumer, Reader.held, Consumer.owed] using h.places
        exact ⟨_, .reserve hreader hgone hroom, hgone⟩
      | granted item => exact ⟨_, .put hreader, hgone⟩
      | done => exact ⟨_, .finish hconsumer hchannel hreader, nofun⟩

/-- How far the task is from its end, without what is left of the source. -/
def Reader.distance : Reader → Nat
  | .waiting _ => 5
  | .granted _ => 4
  | .reading => 1
  | .done => 0

def Consumer.distance : Consumer → Nat
  | .releasing => 3
  | .taking => 2
  | .ended => 1
  | .gone => 0

/-- How much can still happen: every item is pulled, reserved for, put, taken and released. -/
def State.distance (state : State) : Nat :=
  5 * state.source.length + state.reader.distance + 2 * state.channel.length +
    state.consumer.distance

theorem distance_behind_le (item : ExportItem) : (Reader.behind item).distance ≤ 1 := by
  cases item <;> simp [Reader.behind, Reader.distance]

theorem Step.distance_lt (h : Step operation state next) : next.distance < state.distance := by
  cases h with
  | @put item hreader =>
    have hbehind := distance_behind_le item
    simp only [State.distance, hreader, List.length_append, List.length_singleton]
    rw [Reader.distance]
    omega
  | drop hconsumer =>
    rcases hconsumer with hconsumer | hconsumer <;>
      simp [State.distance, Consumer.distance, hconsumer]
  | _ =>
    simp only [State.distance, Reader.distance, Consumer.distance, List.length_cons, *]
    omega

/-- No order of steps goes on forever. -/
theorem acc_step (state : State) : Acc (fun next state => Step operation state next) state :=
  (Subrelation.wf Step.distance_lt (measure State.distance).wf).apply state

/-! ## Behind a dropped stream -/

/-- How much the task may still take from the source when nobody reads any more.  What has been
granted a place is put there, and only the next item is refused. -/
def Reader.allowance : Reader → Nat
  | .reading | .granted (.ok _) => 1
  | _ => 0

theorem allowance_behind (item : ExportItem) :
    (Reader.behind item).allowance = (Reader.granted item).allowance := by
  cases item <;> rfl

theorem Reader.allowance_le (reader : Reader) : reader.allowance ≤ 1 := by
  fun_cases allowance reader <;> decide

/-- What the task has pulled since the stream was dropped. -/
structure PulledSince (dropped state : State) (pulled : Source) : Prop where
  gone : state.consumer = .gone
  source : dropped.source = pulled ++ state.source
  length : pulled.length + state.reader.allowance ≤ dropped.reader.allowance

/-- Behind a drop, a step pulls an item only where the task was already about to. -/
theorem PulledSince.step {dropped : State} {pulled : Source} (h : PulledSince dropped state pulled)
    (hstep : Step operation state next) : ∃ pulled, PulledSince dropped next pulled := by
  obtain ⟨hgone, hsource, hlength⟩ := h
  cases hstep with
  | @pull item rest hreader hrest =>
    refine ⟨pulled ++ [item], hgone, by simpa [hrest] using hsource, ?_⟩
    simpa [hreader, Reader.allowance] using hlength
  | exhaust hreader hempty => exact ⟨pulled, hgone, hsource, Nat.le_of_add_right_le hlength⟩
  | reserve hreader hconsumer hroom => exact absurd hgone hconsumer
  | refuse hreader hconsumer => exact ⟨pulled, hgone, hsource, Nat.le_of_add_right_le hlength⟩
  | put hreader => exact ⟨pulled, hgone, hsource, by rwa [allowance_behind, ← hreader]⟩
  | take hconsumer => cases hgone.symm.trans hconsumer
  | release hconsumer => cases hgone.symm.trans hconsumer
  | finish hconsumer => cases hgone.symm.trans hconsumer
  | drop hconsumer => exact ⟨pulled, rfl, hsource, hlength⟩
  | discard hconsumer hchannel => exact ⟨pulled, hgone, hsource, hlength⟩

/-- Whatever happens behind a drop, what has been pulled since stays within the allowance of the
task. -/
theorem exists_pulledSince_of_run (hgone : state.consumer = .gone) (h : Run operation state later) :
    ∃ pulled, PulledSince state later pulled := by
  induction h with
  | refl => exact ⟨[], hgone, rfl, by simp⟩
  | tail _ hstep ih =>
    obtain ⟨pulled, hpulled⟩ := ih
    exact hpulled.step hstep

/-! ## Any order of steps -/

/-- An export arrives as it is at its source, whatever the order of steps.  What the consumer has
received is a beginning of the items of the source, and all of them if it has come to the end of the
stream.  To the end it comes if it goes on: until then something else than dropping the stream can
happen, and no order of steps goes on forever.  The channel never holds more than there is room for.
Once the stream has been dropped, the task takes at most one more thing from the source. -/
theorem forwarding_delivers (h : Run operation { source } state) :
    state.received <+: delivered operation source ∧
    state.channel.length ≤ capacity ∧
    (state.consumer = .ended → state.received = delivered operation source) ∧
    (state.consumer ≠ .ended → state.consumer ≠ .gone →
      ∃ next, Step operation state next ∧ next.consumer ≠ .gone) ∧
    Acc (fun next state => Step operation state next) state ∧
    (state.consumer = .gone → ∀ later, Run operation state later →
      ∃ pulled, state.source = pulled ++ later.source ∧ pulled.length ≤ 1) := by
  have hfaithful := faithful_of_run h
  refine ⟨hfaithful.begun, hfaithful.length_channel_le, hfaithful.received_of_ended,
    hfaithful.exists_step, acc_step state, fun hgone later hlater => ?_⟩
  obtain ⟨pulled, hpulled⟩ := exists_pulledSince_of_run hgone hlater
  exact ⟨pulled, hpulled.source,
    Nat.le_trans (Nat.le_of_add_right_le hpulled.length) state.reader.allowance_le⟩

/-- A source that fails behind its first chunk. -/
def brokenSource : Source := [.ok [0x61], .error "broken pipe", .ok [0x62]]

/-- What is left when it has been forwarded to a consumer that reads to the end. -/
def brokenEnd : State where
  source := [.ok [0x62]]
  reader := .done
  consumer := .ended
  received := [.ok [0x61], .error (.stream .exportDocuments "broken pipe")]

theorem brokenSource_delivers :
    Run .exportDocuments { source := brokenSource } brokenEnd ∧
      brokenEnd.received = delivered .exportDocuments brokenSource := by
  have hrun : Run .exportDocuments { source := brokenSource } brokenEnd :=
    .head (.pull rfl rfl) <| .head (.reserve rfl nofun rfl) <| .head (.put rfl) <|
    .head (.pull rfl rfl) <| .head (.take rfl rfl) <| .head (.reserve rfl nofun rfl) <|
    .head (.release rfl) <| .head (.put rfl) <| .head (.take rfl rfl) <| .head (.release rfl) <|
    .head (.finish rfl rfl rfl) .refl
  exact ⟨hrun, (forwarding_delivers hrun).2.2.1 rfl⟩

end Forwarding

/-! ## The stream of a call -/

namespace Grpc

variable {σ : Type} (wire : Wire σ)

def Chunks.source (chunks : Chunks) : Forwarding.Source :=
  chunks.data.map .ok ++ chunks.failure.toList.map fun status => .error status.message

/-- The chunks of a stream arrive as they are, and the status that ends it as one failure. -/
theorem delivered_source (operation : Operation) (chunks : Chunks) :
    Forwarding.delivered operation chunks.source =
      chunks.data.map .ok ++
        chunks.failure.toList.map fun status => .error (.stream operation status.message) := by
  rw [Chunks.source]
  induction chunks.data with
  | nil => cases chunks.failure <;> rfl
  | cons chunk rest ih => exact congrArg (_ :: ·) ih

/-- The stream that a call replies with has the items that its source stands for. -/
theorem items_exportDocuments (request : ExportRequest) (world : σ) :
    (Channel.run wire (exportDocuments request) { world }).1.map ExportStream.items =
      ((wire.sendExport (encode request) world).1.mapError (.rpc .exportDocuments)).map
        fun chunks => Forwarding.delivered .exportDocuments chunks.source := by
  rw [exportDocuments, run_exportStream, Channel.run]
  cases (wire.sendExport (encode request) world).1 with
  | error status => rfl
  | ok chunks =>
    cases hfailure : chunks.failure <;>
      simp [Except.mapError, Except.map, ExportStream.items, delivered_source, hfailure]

end Grpc

end DocBridge
