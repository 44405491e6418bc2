import DocBridge.Transport.Failover
import DocBridge.Transport.Memory
import Mathlib.Logic.Function.Basic

/-!
# One hop at most

A client is opened with two transports that are arbitrary state machines, of which either may not
be had.  Whatever is built and called is written down.  The main statement follows such a client
through any run of calls: every call begins at the active transport, goes on to the fallback only
if that fails, and changes neither which transports are held nor what the factory was asked for.
-/

namespace DocBridge

/-- What can happen on a wire: its transport is asked for, or is given a call. -/
inductive WireEvent where
  | built (kind : TransportKind)
  | called (kind : TransportKind) (call : Call)
deriving DecidableEq, Repr

structure WireWorld (state : TransportKind → Type) where
  states : (kind : TransportKind) → state kind
  events : List WireEvent

/-- Two transports with states of their own, and why either of them cannot be had. -/
structure WireMachines (state : TransportKind → Type) where
  transport : (kind : TransportKind) → Transport (state kind)
  refusal? : TransportKind → Option TransportError

def runCalls {σ : Type} (transport : Transport σ) (calls : List Call) (world : σ) : σ :=
  calls.foldl (fun world call => (transport.perform call world).2) world

variable {state : TransportKind → Type}

def WireWorld.afterCall (world : WireWorld state) (kind : TransportKind) (call : Call)
    (next : state kind) : WireWorld state where
  states := Function.update world.states kind next
  events := world.events ++ [.called kind call]

namespace WireMachines

def held (machines : WireMachines state) (kind : TransportKind) : Transport (WireWorld state) where
  perform call world :=
    let (outcome, next) := (machines.transport kind).perform call (world.states kind)
    (outcome, world.afterCall kind call next)
  close world :=
    let (outcome, next) := (machines.transport kind).close (world.states kind)
    (outcome, { world with states := Function.update world.states kind next })

def build (machines : WireMachines state) (kind : TransportKind) :
    Except TransportError (Transport (WireWorld state)) :=
  match machines.refusal? kind with
  | some failure => .error failure
  | none => .ok (machines.held kind)

/-- The factory of the transports.  It writes down what it is asked for. -/
def factory (machines : WireMachines state) : Factory (WireWorld state) (WireWorld state) where
  create kind world :=
    (machines.build kind, { world with events := world.events ++ [.built kind] })

/-- What one call on a client amounts to: the active transport serves it; or it fails there and
nothing else is held; or it fails there, is given to the fallback, and has the outcome it has
there. -/
inductive Hop (machines : WireMachines state) (active : TransportKind)
    (fallback : Option TransportKind) (call : Call) (world : WireWorld state) :
    call.Outcome → WireWorld state → Prop
  | served {reply : call.Reply} {next : state active}
      (hactive : (machines.transport active).perform call (world.states active) =
        (.ok reply, next)) :
      Hop machines active fallback call world (.ok reply) (world.afterCall active call next)
  | failed {failure : TransportError} {next : state active}
      (hactive : (machines.transport active).perform call (world.states active) =
        (.error failure, next))
      (hfallback : fallback = none) :
      Hop machines active fallback call world (.error failure) (world.afterCall active call next)
  | hopped {failure : TransportError} {next : state active} {kind : TransportKind}
      {outcome : call.Outcome} {last : state kind}
      (hactive : (machines.transport active).perform call (world.states active) =
        (.error failure, next))
      (hfallback : fallback = some kind) (hkind : kind ≠ active)
      (hlast : (machines.transport kind).perform call (world.states kind) = (outcome, last)) :
      Hop machines active fallback call world outcome
        ((world.afterCall active call next).afterCall kind call last)

/-- What a client of a mode holds when it has been opened: its transports are those of the
machines, and which they are is settled by what could be had. -/
structure OpenedAs (machines : WireMachines state) (mode : TransportMode)
    (client : FailoverClient (WireWorld state)) : Prop where
  active : client.active.transport = machines.held client.active.kind
  fallback : ∀ other, client.fallback = some other →
    other.transport = machines.held other.kind ∧ other.kind ≠ client.active.kind
  degraded : client.degraded = (machines.refusal? mode.primary).isSome
  kinds_of_degraded : client.degraded = true →
    mode.secondary = some client.active.kind ∧ client.fallback = none
  kinds_of_not_degraded : client.degraded = false →
    client.active.kind = mode.primary ∧
      client.fallback.map Held.kind =
        mode.secondary.filter fun kind => (machines.refusal? kind).isNone

end WireMachines

theorem TransportMode.secondary_ne_primary {mode : TransportMode} {kind : TransportKind}
    (h : mode.secondary = some kind) : kind ≠ mode.primary := by
  cases mode <;> simp [TransportMode.secondary, TransportMode.primary] at h ⊢ <;> simp [← h]

namespace WireMachines

variable {machines : WireMachines state} {mode : TransportMode}
variable {client : FailoverClient (WireWorld state)}

theorem openedAs_primary (hprimary : machines.refusal? mode.primary = none)
    (hsecondary : (mode.secondary.filter fun kind => (machines.refusal? kind).isNone) = none) :
    machines.OpenedAs mode (.single mode mode.primary (machines.held mode.primary) false) where
  active := rfl
  fallback := nofun
  degraded := by simp [FailoverClient.single, hprimary]
  kinds_of_degraded := nofun
  kinds_of_not_degraded _ := ⟨rfl, hsecondary.symm⟩

/-- If the primary transport is refused, the client has the other one only and is degraded. -/
theorem openedAs_secondary {kind : TransportKind} {failure : TransportError}
    (hprimary : machines.refusal? mode.primary = some failure)
    (hsecondary : mode.secondary = some kind) :
    machines.OpenedAs mode (.single mode kind (machines.held kind) true) where
  active := rfl
  fallback := nofun
  degraded := by simp [FailoverClient.single, hprimary]
  kinds_of_degraded _ := ⟨hsecondary, rfl⟩
  kinds_of_not_degraded := nofun

theorem openedAs_both {kind : TransportKind} (hprimary : machines.refusal? mode.primary = none)
    (hsecondary : mode.secondary = some kind) (hkind : machines.refusal? kind = none) :
    machines.OpenedAs mode
      ⟨mode, ⟨mode.primary, machines.held mode.primary⟩, some ⟨kind, machines.held kind⟩, false⟩
    where
  active := rfl
  fallback := by
    rintro other ⟨⟩
    exact ⟨rfl, TransportMode.secondary_ne_primary hsecondary⟩
  degraded := by simp [hprimary]
  kinds_of_degraded := nofun
  kinds_of_not_degraded _ := ⟨rfl, by simp [hsecondary, hkind, Option.filter_some]⟩

/-- Every way to open a client is one of the three above, and asks for the wires of the mode. -/
theorem openedAs_of_connect {states : (kind : TransportKind) → state kind}
    {opened : WireWorld state}
    (hopen : FailoverClient.connect mode machines.factory ⟨states, []⟩ = (.ok client, opened)) :
    machines.OpenedAs mode client ∧ opened = ⟨states, mode.requested.map .built⟩ := by
  simp only [FailoverClient.connect, factory, TransportMode.requested] at hopen ⊢
  cases hsecondary : mode.secondary with
  | none =>
    cases hprimary : machines.refusal? mode.primary with
    | some failure => simp [build, hprimary, hsecondary, Except.map] at hopen
    | none =>
      simp only [build, hprimary, hsecondary, Except.map, Prod.mk.injEq, Except.ok.injEq] at hopen
      obtain ⟨rfl, rfl⟩ := hopen
      exact ⟨openedAs_primary hprimary (by simp [hsecondary]), rfl⟩
  | some kind =>
    simp only [hsecondary, Prod.mk.injEq] at hopen
    obtain ⟨hclient, rfl⟩ := hopen
    refine ⟨?_, rfl⟩
    cases hprimary : machines.refusal? mode.primary with
    | some failure =>
      cases hkind : machines.refusal? kind with
      | some other => simp [build, hprimary, hkind, FailoverClient.settle] at hclient
      | none =>
        simp only [build, hprimary, hkind, FailoverClient.settle, Except.ok.injEq] at hclient
        exact hclient ▸ openedAs_secondary hprimary hsecondary
    | none =>
      cases hkind : machines.refusal? kind with
      | some other =>
        simp only [build, hprimary, hkind, FailoverClient.settle, Except.ok.injEq] at hclient
        exact hclient ▸ openedAs_primary hprimary
          (by simp [hsecondary, hkind, Option.filter_some])
      | none =>
        simp only [build, hprimary, hkind, FailoverClient.settle, Except.ok.injEq] at hclient
        exact hclient ▸ openedAs_both hprimary hsecondary hkind

/-! ## One call, and a run of calls -/

theorem held_perform (kind : TransportKind) (call : Call) (world : WireWorld state) :
    (machines.held kind).perform call world =
      (((machines.transport kind).perform call (world.states kind)).1,
        world.afterCall kind call
          ((machines.transport kind).perform call (world.states kind)).2) := rfl

/-- One call on an opened client hops at most once. -/
theorem OpenedAs.hop (hclient : machines.OpenedAs mode client) (call : Call)
    (world : WireWorld state) :
    machines.Hop client.active.kind (client.fallback.map Held.kind) call world
      (client.perform call world).1 (client.perform call world).2 := by
  rw [FailoverClient.perform, hclient.active, held_perform]
  cases hactive : (machines.transport client.active.kind).perform call
      (world.states client.active.kind) with
  | mk outcome next =>
    cases outcome with
    | ok reply => exact .served hactive
    | error failure =>
      cases hfallback : client.fallback with
      | none => exact .failed hactive rfl
      | some other =>
        obtain ⟨hheld, hkind⟩ := hclient.fallback other hfallback
        simp only [hheld, held_perform]
        have hunmoved : (world.afterCall client.active.kind call next).states other.kind =
            world.states other.kind := Function.update_of_ne hkind _ _
        rw [hunmoved]
        exact .hopped hactive rfl hkind rfl

/-- A call adds nothing to the events but calls of itself. -/
theorem Hop.events {active : TransportKind} {fallback : Option TransportKind} {call : Call}
    {world after : WireWorld state} {outcome : call.Outcome}
    (hhop : machines.Hop active fallback call world outcome after) :
    ∃ called : List WireEvent, after.events = world.events ++ called ∧
      ∀ event ∈ called, ∃ kind, event = .called kind call ∧ (kind = active ∨ fallback = some kind)
    := by
  cases hhop with
  | served hactive => exact ⟨[.called active call], rfl, by simp⟩
  | failed hactive hfallback => exact ⟨[.called active call], rfl, by simp⟩
  | @hopped _ _ kind _ _ hactive hfallback hkind hlast =>
    exact ⟨[.called active call, .called kind call], by simp [WireWorld.afterCall],
      by simp [hfallback]⟩

/-- A call that the active transport serves leaves the other one as it was. -/
theorem Hop.states_of_served {active : TransportKind} {fallback : Option TransportKind}
    {call : Call} {world after : WireWorld state} {outcome : call.Outcome}
    (hhop : machines.Hop active fallback call world outcome after)
    (hserved : ((machines.transport active).perform call (world.states active)).1.isOk = true)
    {kind : TransportKind} (hkind : kind ≠ active) : after.states kind = world.states kind := by
  cases hhop with
  | served hactive => exact Function.update_of_ne hkind _ _
  | failed hactive _ => simp [hactive, Except.isOk, Except.toBool] at hserved
  | hopped hactive _ _ _ => simp [hactive, Except.isOk, Except.toBool] at hserved

/-- A run adds calls on the transports that are held, and nothing else. -/
theorem OpenedAs.events_run (hclient : machines.OpenedAs mode client) (calls : List Call)
    (world : ClientWorld (WireWorld state)) :
    ∃ called : List WireEvent,
      (runCalls client.transport calls world).world.events = world.world.events ++ called ∧
      ∀ event ∈ called, ∃ kind, ∃ call ∈ calls, event = .called kind call ∧
        (kind = client.active.kind ∨ client.fallback.map Held.kind = some kind) := by
  induction calls generalizing world with
  | nil => exact ⟨[], by simp [runCalls], nofun⟩
  | cons call rest ih =>
    obtain ⟨first, hfirst, hkinds⟩ := (hclient.hop call world.world).events
    obtain ⟨later, hlater, hkinds'⟩ := ih (client.transport.perform call world).2
    refine ⟨first ++ later, ?_, fun event hevent => ?_⟩
    · calc
        (runCalls client.transport (call :: rest) world).world.events =
            (client.perform call world.world).2.events ++ later := hlater
        _ = world.world.events ++ (first ++ later) := by rw [hfirst, List.append_assoc]
    · rcases List.mem_append.1 hevent with hmem | hmem
      · obtain ⟨kind, hcalled, hheld⟩ := hkinds event hmem
        exact ⟨kind, call, List.mem_cons_self, hcalled, hheld⟩
      · obtain ⟨kind, other, hother, hcalled, hheld⟩ := hkinds' event hmem
        exact ⟨kind, other, List.mem_cons_of_mem call hother, hcalled, hheld⟩

/-- A degraded client holds nothing of its mode's primary wire. -/
theorem OpenedAs.ne_primary_of_degraded (hclient : machines.OpenedAs mode client)
    (hdegraded : client.degraded = true) {kind : TransportKind}
    (hkind : kind = client.active.kind ∨ client.fallback.map Held.kind = some kind) :
    kind ≠ mode.primary := by
  obtain ⟨hsecondary, hfallback⟩ := hclient.kinds_of_degraded hdegraded
  rcases hkind with rfl | hkind
  · exact TransportMode.secondary_ne_primary hsecondary
  · simp [hfallback] at hkind

end WireMachines

/-- A client that has been opened, with any mode and whatever could be had, makes each call of any
run on its active transport, and on the other one exactly if that fails and there is another; the
outcome is that of the last of them.  What it holds is settled when it is opened, the factory is
asked for the wires of the mode and never again, and a degraded client keeps off its primary. -/
theorem failover_hops_at_most_once (machines : WireMachines state) (mode : TransportMode)
    (states : (kind : TransportKind) → state kind) (client : FailoverClient (WireWorld state))
    (opened : WireWorld state)
    (hopen : FailoverClient.connect mode machines.factory ⟨states, []⟩ = (.ok client, opened)) :
    machines.OpenedAs mode client ∧
    opened = ⟨states, mode.requested.map .built⟩ ∧
    (∀ before call,
      let reached := runCalls client.transport before ⟨false, opened⟩
      let (outcome, after) := client.transport.perform call reached
      machines.Hop client.active.kind (client.fallback.map Held.kind) call reached.world outcome
          after.world ∧
        (((machines.transport client.active.kind).perform call
              (reached.world.states client.active.kind)).1.isOk = true →
          ∀ kind ≠ client.active.kind, after.world.states kind = reached.world.states kind)) ∧
    (∀ calls, ∃ called : List WireEvent,
      (runCalls client.transport calls ⟨false, opened⟩).world.events =
        mode.requested.map .built ++ called ∧
      ∀ event ∈ called, ∃ kind, ∃ call ∈ calls, event = .called kind call ∧
        (kind = client.active.kind ∨ client.fallback.map Held.kind = some kind)) ∧
    (client.degraded = true → ∀ calls call,
      .called mode.primary call ∉
        (runCalls client.transport calls ⟨false, opened⟩).world.events) := by
  obtain ⟨hclient, rfl⟩ := WireMachines.openedAs_of_connect hopen
  refine ⟨hclient, rfl, fun before call => ?_, fun calls => hclient.events_run calls _,
    fun hdegraded calls call hmem => ?_⟩
  · have hhop := hclient.hop call
      (runCalls client.transport before ⟨false, states, mode.requested.map .built⟩).world
    exact ⟨hhop, fun hserved kind hkind => hhop.states_of_served hserved hkind⟩
  · obtain ⟨called, hevents, hcalled⟩ :=
      hclient.events_run calls ⟨false, states, mode.requested.map .built⟩
    rw [hevents] at hmem
    rcases List.mem_append.1 hmem with hbuilt | hmem
    · simp at hbuilt
    · obtain ⟨kind, _, _, hevent, hkind⟩ := hcalled _ hmem
      obtain ⟨rfl, -⟩ := WireEvent.called.inj hevent
      exact hclient.ne_primary_of_degraded hdegraded hkind rfl

/-- Two stores in memory, either of which may be out of reach. -/
def storePair (refusal? : TransportKind → Option TransportError) :
    WireMachines fun _ => Memory :=
  ⟨fun _ => Memory.transport, refusal?⟩

/-- The states of two stores, of which the one behind gRPC fails every call. -/
def failingFirst : TransportKind → Memory
  | .grpc => { failing := true }
  | .rest => {}

theorem storePair_hops :
    let pair := storePair fun _ => none
    let lame := storePair fun kind => if kind = .grpc then some (.connect .grpc "refused") else none
    let client : FailoverClient (WireWorld fun _ => Memory) :=
      ⟨.grpcWithRestFallback, ⟨.grpc, pair.held .grpc⟩, some ⟨.rest, pair.held .rest⟩, false⟩
    let degraded : FailoverClient (WireWorld fun _ => Memory) :=
      ⟨.grpcWithRestFallback, ⟨.rest, lame.held .rest⟩, none, true⟩
    let opened : WireWorld fun _ => Memory := ⟨failingFirst, [.built .grpc, .built .rest]⟩
    (FailoverClient.connect .grpcWithRestFallback pair.factory ⟨failingFirst, []⟩ =
        (.ok client, opened) ∧
      pair.Hop .grpc (some .rest) .stats opened
        (client.transport.perform .stats ⟨false, opened⟩).1
        (client.transport.perform .stats ⟨false, opened⟩).2.world) ∧
    (FailoverClient.connect .grpcWithRestFallback lame.factory ⟨failingFirst, []⟩ =
        (.ok degraded, opened) ∧
      .called .grpc .stats ∉
        (runCalls degraded.transport [.stats] ⟨false, opened⟩).world.events) := by
  intro pair lame client degraded opened
  have hclient : FailoverClient.connect .grpcWithRestFallback pair.factory ⟨failingFirst, []⟩ =
      (.ok client, opened) := rfl
  have hdegraded : FailoverClient.connect .grpcWithRestFallback lame.factory ⟨failingFirst, []⟩ =
      (.ok degraded, opened) := rfl
  obtain ⟨-, -, hcalls, -, -⟩ := failover_hops_at_most_once pair _ failingFirst _ _ hclient
  obtain ⟨-, -, -, -, hoff⟩ := failover_hops_at_most_once lame _ failingFirst _ _ hdegraded
  exact ⟨⟨hclient, (hcalls [] .stats).1⟩, hdegraded, hoff rfl [.stats] .stats⟩

end DocBridge
