import DocBridge.Proofs.SingleHop
import DocBridge.Transport.Faultless

/-!
# Two ways to one store

A client holds two transports to the same store.  Before every call either of them may break down
or recover, as long as one of them works.  The main statement says that nobody can tell such a
client from a single transport that never fails: not by the outcome of any call, and not by the
store that is left.  In particular a call that is made twice is not carried out twice.
-/

namespace DocBridge

structure SharedPair where
  first : Memory
  second : Memory
  shared : first.store = second.store

namespace SharedPair

def store (pair : SharedPair) : Store := pair.first.store

def withFailing (pair : SharedPair) (first second : Bool) : SharedPair where
  first := { pair.first with failing := first }
  second := { pair.second with failing := second }
  shared := pair.shared

/-- What the first transport does is seen by the second. -/
def ofFirst (memory : Memory) (pair : SharedPair) : SharedPair where
  first := memory
  second := { pair.second with store := memory.store }
  shared := rfl

def ofSecond (memory : Memory) (pair : SharedPair) : SharedPair where
  first := { pair.first with store := memory.store }
  second := memory
  shared := rfl

end SharedPair

/-- A client that goes to the first transport and falls back on the second. -/
def FailoverClient.ofPair (mode : TransportMode) (active fallback : TransportKind)
    (degraded : Bool) : FailoverClient SharedPair where
  mode := mode
  active := ⟨active, Memory.transport.within SharedPair.first SharedPair.ofFirst⟩
  fallback := some ⟨fallback, Memory.transport.within SharedPair.second SharedPair.ofSecond⟩
  degraded := degraded

/-- A call, and which of two transports fail while it is made.  One of them works. -/
structure Turn where
  call : Call
  firstFails : Bool
  secondFails : Bool
  oneWorks : firstFails = false ∨ secondFails = false

def Turn.play (client : FailoverClient SharedPair) (turn : Turn)
    (state : ClientWorld SharedPair) : turn.call.Outcome × ClientWorld SharedPair :=
  client.transport.perform turn.call
    { state with world := state.world.withFailing turn.firstFails turn.secondFails }

def playAll (client : FailoverClient SharedPair) (turns : List Turn)
    (state : ClientWorld SharedPair) : ClientWorld SharedPair :=
  turns.foldl (fun state turn => (turn.play client state).2) state

variable (mode : TransportMode) (active fallback : TransportKind) (degraded : Bool)

/-! ## One call -/

namespace SharedPair

variable {pair : SharedPair}

/-- A call that the first transport serves does not reach the second one. -/
theorem perform_of_served {call : Call} {reply : call.Reply}
    (hserved : (pair.first.perform call).1 = .ok reply) :
    (FailoverClient.ofPair mode active fallback degraded).perform call pair =
      (.ok reply, ofFirst (pair.first.perform call).2 pair) := by
  have hactive : (FailoverClient.ofPair mode active fallback degraded).active.transport.perform
      call pair = (.ok reply, ofFirst (pair.first.perform call).2 pair) := by
    rw [← hserved]
    rfl
  rw [FailoverClient.perform, hactive]

/-- After a failure of the first transport the second has the last word. -/
theorem perform_of_hopped {call : Call} {failure : TransportError}
    (hfailed : (pair.first.perform call).1 = .error failure) :
    let between := ofFirst (pair.first.perform call).2 pair
    (FailoverClient.ofPair mode active fallback degraded).perform call pair =
      ((between.second.perform call).1, ofSecond (between.second.perform call).2 between) := by
  intro between
  have hactive : (FailoverClient.ofPair mode active fallback degraded).active.transport.perform
      call pair = (.error failure, between) := by
    rw [← hfailed]
    rfl
  rw [FailoverClient.perform, hactive]
  rfl

/-- As long as one transport works, a call on the client is a call on the store. -/
theorem perform_alike (pair : SharedPair) (call : Call)
    (hworks : pair.first.failing = false ∨ pair.second.failing = false) :
    let result := (FailoverClient.ofPair mode active fallback degraded).perform call pair
    Alike result.1 (pair.store.answer call).1 ∧ result.2.store = pair.store.after call := by
  intro result
  cases hfirst : pair.first.failing with
  | true =>
    obtain ⟨hfailed, hkept⟩ := Memory.perform_of_failing hfirst call
    have hresult : result = _ := perform_of_hopped mode active fallback degraded hfailed
    have hsecond : (ofFirst (pair.first.perform call).2 pair).second.failing = false :=
      hworks.resolve_left (by simp [hfirst])
    have hstore : (ofFirst (pair.first.perform call).2 pair).second.store = pair.store := hkept
    obtain ⟨houtcome, hafter⟩ := Memory.perform_of_healthy hsecond call
    rw [hstore] at houtcome hafter
    rw [hresult]
    exact ⟨houtcome ▸ .refl _, hafter⟩
  | false =>
    obtain ⟨houtcome, hafter⟩ := Memory.perform_of_healthy hfirst call
    cases hreply : (pair.store.answer call).1 with
    | ok reply =>
      have hresult : result = _ :=
        perform_of_served mode active fallback degraded (houtcome.trans hreply)
      rw [hresult]
      exact ⟨.served reply, hafter⟩
    | error failure =>
      -- The store itself refuses the call.  It is asked once more, and refuses again or is down.
      have hresult : result = _ :=
        perform_of_hopped mode active fallback degraded (houtcome.trans hreply)
      have hkept : pair.store.after call = pair.store := Store.after_of_error hreply
      have hstore : (ofFirst (pair.first.perform call).2 pair).second.store = pair.store :=
        hafter.trans hkept
      cases hsecond : (ofFirst (pair.first.perform call).2 pair).second.failing with
      | true =>
        obtain ⟨hdown, hsame⟩ := Memory.perform_of_failing hsecond call
        rw [hresult, hdown, hkept]
        exact ⟨.failed _ _, hsame.trans hstore⟩
      | false =>
        obtain ⟨hagain, hsame⟩ := Memory.perform_of_healthy hsecond call
        rw [hstore] at hagain hsame
        rw [hresult, hagain, hreply]
        exact ⟨.refl _, hsame⟩

end SharedPair

/-- A turn answers like the store, and leaves it as its call does. -/
theorem Turn.play_alike (turn : Turn) (state : ClientWorld SharedPair) :
    let result := turn.play (.ofPair mode active fallback degraded) state
    Alike result.1 (state.world.store.answer turn.call).1 ∧
      result.2.world.store = state.world.store.after turn.call :=
  SharedPair.perform_alike mode active fallback degraded
    (state.world.withFailing turn.firstFails turn.secondFails) turn.call turn.oneWorks

/-! ## A run of calls -/

/-- After any turns the store is what the calls alone make of it. -/
theorem store_playAll (turns : List Turn) (state : ClientWorld SharedPair) :
    (playAll (.ofPair mode active fallback degraded) turns state).world.store =
      state.world.store.afterAll (turns.map Turn.call) := by
  induction turns generalizing state with
  | nil => rfl
  | cons turn rest ih =>
    have hturn := (turn.play_alike mode active fallback degraded state).2
    calc
      (playAll (.ofPair mode active fallback degraded) (turn :: rest) state).world.store =
          (turn.play (.ofPair mode active fallback degraded) state).2.world.store.afterAll
            (rest.map Turn.call) := ih _
      _ = state.world.store.afterAll ((turn :: rest).map Turn.call) := by
          rw [hturn]
          rfl

/-- A transport that does not fail takes in one call after the other. -/
theorem Memory.runCalls_of_healthy {memory : Memory} (h : memory.failing = false)
    (calls : List Call) :
    (runCalls Memory.transport calls memory).failing = false ∧
      (runCalls Memory.transport calls memory).store = memory.store.afterAll calls := by
  induction calls generalizing memory with
  | nil => exact ⟨h, rfl⟩
  | cons call rest ih =>
    obtain ⟨hrest, hstore⟩ := ih ((memory.failing_perform call).trans h)
    refine ⟨hrest, ?_⟩
    calc
      (runCalls Memory.transport (call :: rest) memory).store =
          (memory.perform call).2.store.afterAll rest := hstore
      _ = memory.store.afterAll (call :: rest) := by
          rw [(Memory.perform_of_healthy h call).2]
          rfl

/-- A client of two transports to one store, of which one works at every call, cannot be told from
a transport to that store that never fails: after any run of calls both are at the same store, the
next call has the same reply or comes to nothing on both, and leaves the same store. -/
theorem shared_store_failover_is_faultless (turns : List Turn) (turn : Turn)
    (state : ClientWorld SharedPair) :
    let client := FailoverClient.ofPair mode active fallback degraded
    let reached := playAll client turns state
    let alone := runCalls Memory.transport (turns.map Turn.call) { store := state.world.store }
    reached.world.store = alone.store ∧
      (∀ reply, (turn.play client reached).1 = .ok reply ↔
        (Memory.transport.perform turn.call alone).1 = .ok reply) ∧
      (turn.play client reached).2.world.store =
        (Memory.transport.perform turn.call alone).2.store := by
  intro client reached alone
  have hreached : reached.world.store = state.world.store.afterAll (turns.map Turn.call) :=
    store_playAll mode active fallback degraded turns state
  have hworks : ({ store := state.world.store } : Memory).failing = false := rfl
  obtain ⟨hhealthy, halone⟩ := Memory.runCalls_of_healthy hworks (turns.map Turn.call)
  have hstores : reached.world.store = alone.store := hreached.trans halone.symm
  obtain ⟨halike, hafter⟩ := turn.play_alike mode active fallback degraded reached
  obtain ⟨houtcome, hleft⟩ := Memory.perform_of_healthy hhealthy turn.call
  refine ⟨hstores, fun reply => ?_, ?_⟩
  · have hsame := halike.ok_iff reply
    rw [hstores] at hsame
    exact hsame.trans (by rw [← houtcome]; rfl)
  · rw [hafter, hstores]
    exact hleft.symm

/-- Two transports to a store without documents. -/
def memoryPair : ClientWorld SharedPair := { world := ⟨{}, {}, rfl⟩ }

/-- A document is added and written again, and one that is not there is removed, while the
transports take turns in failing. -/
def alternatingTurns : List Turn :=
  [⟨.add ⟨"guides", "setup", "en_US", ∅, "Unpack.", false⟩, true, false, .inr rfl⟩,
    ⟨.add ⟨"guides", "setup", "en_US", ∅, "Unpack it.", false⟩, false, true, .inl rfl⟩,
    ⟨.delete ⟨"guides", "usage", "en_US"⟩, false, false, .inl rfl⟩]

def readingTurn : Turn :=
  ⟨.get { collection := "guides", key := "setup", lang := "en_US" }, true, false, .inr rfl⟩

def setupDocument : Document where
  id := "guides|setup|en_us"
  key := "setup"
  lang := "en_US"
  contentMd := "Unpack it."
  addedAt := 1
  updatedAt := 2

theorem alternating_failures_do_not_show :
    let client := FailoverClient.ofPair .grpcWithRestFallback .grpc .rest false
    let reached := playAll client alternatingTurns memoryPair
    let alone := runCalls Memory.transport (alternatingTurns.map Turn.call)
      { store := memoryPair.world.store }
    (reached.world.first.calls, reached.world.second.calls) = (3, 2) ∧
    reached.world.store = alone.store ∧
    (readingTurn.play client reached).1 = .ok setupDocument ∧
    (readingTurn.play client reached).2.world.store =
      (Memory.transport.perform readingTurn.call alone).2.store := by
  intro client reached alone
  obtain ⟨hreached, hreply, hleft⟩ := shared_store_failover_is_faultless .grpcWithRestFallback
    .grpc .rest false alternatingTurns readingTurn memoryPair
  have hcalls : (reached.world.first.calls, reached.world.second.calls) = (3, 2) := by
    decide +kernel
  have hworks : alone.failing = false := by decide +kernel
  have hfound : alone.store.get? { collection := "guides", key := "setup", lang := "en_US" } =
      some setupDocument := by
    decide +kernel
  have hreading : (Memory.transport.perform readingTurn.call alone).1 = .ok setupDocument := by
    refine (Memory.perform_of_healthy hworks readingTurn.call).1.trans ?_
    simp only [readingTurn, Store.answer, Memory.answer, hfound]
    rfl
  exact ⟨hcalls, hreached, (hreply setupDocument).2 hreading, hleft⟩
end DocBridge
