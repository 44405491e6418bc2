import DocBridge.Transport.Closing
import DocBridge.Transport.Memory
import Mathlib.Logic.Relation

/-!
# A client is closed once

Of all the callers that close a client, the one that sets the flag closes its transports, each of
them once and all of them even if some fail, and reports every failure.  The others are done at
once.
-/

namespace DocBridge

namespace Closing

variable {σ ι : Type} {client : FailoverClient σ}

/-! ## Single closes -/

def complaints (events : List (CloseEvent σ ι)) : List String :=
  events.filterMap CloseEvent.complaint?

theorem complaints_eq_nil_iff {events : List (CloseEvent σ ι)} :
    complaints events = [] ↔ ∀ event ∈ events, event.outcome = .ok () := by
  rw [complaints, List.filterMap_eq_nil_iff]
  refine forall₂_congr fun event _ => ?_
  rw [CloseEvent.complaint?]
  cases event.outcome <;> simp

theorem closeHeld_failures (caller : ι) (held : Held σ) (world : σ) :
    (FailoverClient.closeHeld held world).1 =
      complaints [⟨caller, held, (held.transport.close world).1⟩] := by
  rw [FailoverClient.closeHeld]
  rcases hclose : held.transport.close world with ⟨outcome, after⟩
  cases outcome <;> rfl

theorem complaints_append (first second : List (CloseEvent σ ι)) :
    complaints (first ++ second) = complaints first ++ complaints second :=
  List.filterMap_append

/-! ## What every step keeps -/

/-- How far the caller has come that closes the client: what is closed and what is left are what the
client holds, and the failures are those of the closes so far. -/
inductive Progress (client : FailoverClient σ) (events : List (CloseEvent σ ι)) : CloseCall σ → Prop
  | closing {rest : List (Held σ)} (hheld : events.map CloseEvent.held ++ rest = client.held) :
      Progress client events (.closing (complaints events) rest)
  | reported (hheld : events.map CloseEvent.held = client.held) :
      Progress client events (.reported (reportOf (complaints events)))

namespace Progress

variable {events : List (CloseEvent σ ι)} {call : CloseCall σ}

/-- What has been closed so far is the beginning of what the client holds. -/
theorem begun (h : Progress client events call) :
    events.map CloseEvent.held <+: client.held := by
  cases h with
  | closing hheld => exact ⟨_, hheld⟩
  | reported hheld => exact hheld ▸ List.prefix_rfl

/-- A caller that is back has closed all that the client holds, and reports every complaint. -/
theorem outcome (h : Progress client events call) {outcome : Except TransportError Unit}
    (hback : call.outcome? = some outcome) :
    events.map CloseEvent.held = client.held ∧ outcome = reportOf (complaints events) := by
  cases h with
  | closing hheld => cases hback
  | reported hheld => exact ⟨hheld, (Option.some.inj hback).symm⟩

end Progress

/-- A report is success if every close succeeded, and otherwise all that there is to be said. -/
theorem reportOf_complaints (events : List (CloseEvent σ ι)) :
    (reportOf (complaints events) = .ok () ∧ ∀ event ∈ events, event.outcome = .ok ()) ∨
      (reportOf (complaints events) = .error (.close (complaints events)) ∧
        ∃ event ∈ events, event.outcome ≠ .ok ()) := by
  by_cases hnone : complaints events = []
  · exact .inl ⟨by rw [hnone]; rfl, complaints_eq_nil_iff.1 hnone⟩
  · refine .inr ⟨by simp [reportOf, hnone], Classical.byContradiction fun hfailed => hnone ?_⟩
    exact complaints_eq_nil_iff.2 (by simpa using hfailed)

/-- One caller has set the flag.  All closes are its own, and nobody else does anything. -/
structure ClosedBy (client : FailoverClient σ) (state : State σ ι) (closer : ι) : Prop where
  closed : state.closed = true
  own : ∀ event ∈ state.events, event.caller = closer
  progress : Progress client state.events (state.calls closer)
  others : ∀ other, other ≠ closer → state.calls other = .called ∨ state.calls other = .passed

structure Untouched (state : State σ ι) : Prop where
  opened : state.closed = false
  events : state.events = []
  calls : ∀ caller, state.calls caller = .called

/-- A caller that is closing is the one that set the flag. -/
theorem ClosedBy.eq_of_closing {state : State σ ι} {caller closer : ι} {failures : List String}
    {rest : List (Held σ)} (h : ClosedBy client state closer)
    (hcall : state.calls caller = .closing failures rest) : caller = closer := by
  refine Classical.byContradiction fun hother => ?_
  rcases h.others caller hother with hcalled | hpassed
  · cases hcall.symm.trans hcalled
  · cases hcall.symm.trans hpassed

variable [DecidableEq ι] {state next : State σ ι}

theorem moved_calls_self (state : State σ ι) (caller : ι) (call : CloseCall σ) :
    (state.moved caller call).calls caller = call := if_pos rfl

theorem moved_calls_of_ne (state : State σ ι) {caller other : ι} (h : other ≠ caller)
    (call : CloseCall σ) : (state.moved caller call).calls other = state.calls other := if_neg h

/-- What the closer does is not seen in what the others are at. -/
theorem ClosedBy.others_moved {closer : ι} (h : ClosedBy client state closer) (call : CloseCall σ)
    (other : ι) (hother : other ≠ closer) :
    (state.moved closer call).calls other = .called ∨
      (state.moved closer call).calls other = .passed := by
  rw [moved_calls_of_ne state hother]
  exact h.others other hother

/-- Once a caller has set the flag, no step lets another one close anything. -/
theorem ClosedBy.step {closer : ι} (h : ClosedBy client state closer)
    (hstep : Step client state next) : ClosedBy client next closer := by
  have hprogress := h.progress
  cases hstep with
  | perform call hheld => exact ⟨h.closed, h.own, h.progress, h.others⟩
  | claim hcall hopen => cases h.closed.symm.trans hopen
  | @pass caller hcall _ =>
    -- The closer is past its call, so that another caller comes to the flag.
    have hcaller : closer ≠ caller := by
      rintro rfl
      rw [hcall] at hprogress
      cases hprogress
    refine ⟨h.closed, h.own, by rwa [moved_calls_of_ne _ hcaller], fun other hother => ?_⟩
    by_cases hsame : other = caller
    · exact .inr (hsame ▸ moved_calls_self _ _ _)
    · rw [moved_calls_of_ne _ hsame]
      exact h.others other hother
  | @close caller failures held rest hcall =>
    -- Nobody but the closer closes anything, so that this is its next transport.
    obtain rfl := h.eq_of_closing hcall
    rw [hcall] at hprogress
    cases hprogress with
    | closing hheld =>
      refine ⟨h.closed, ?_, ?_, h.others_moved _⟩
      · exact List.forall_mem_append.2 ⟨h.own, List.forall_mem_singleton.2 rfl⟩
      · rw [moved_calls_self, closeHeld_failures caller, ← complaints_append]
        exact .closing (by simpa using hheld)
  | report hcall =>
    obtain rfl := h.eq_of_closing hcall
    rw [hcall] at hprogress
    cases hprogress with
    | closing hheld =>
      refine ⟨h.closed, h.own, ?_, h.others_moved _⟩
      rw [moved_calls_self]
      exact .reported ((List.append_nil _).symm.trans hheld)

/-- A client that nobody has touched stays so, until one caller sets the flag. -/
theorem Untouched.step (h : Untouched state) (hstep : Step client state next) :
    Untouched next ∨ ∃ closer, ClosedBy client next closer := by
  cases hstep with
  | perform call hheld => exact .inl ⟨h.opened, h.events, h.calls⟩
  | @claim caller hcall hopen =>
    have hnone : ∀ event ∈ state.events, event.caller = caller := by simp [h.events]
    have hbegun : Progress client state.events (.closing [] client.held) := by
      rw [h.events]
      exact .closing rfl
    refine .inr ⟨caller, rfl, hnone, ?_, fun other hother => ?_⟩
    · rwa [moved_calls_self]
    · rw [moved_calls_of_ne _ hother]
      exact .inl (h.calls other)
  | pass hcall hclosed => cases h.opened.symm.trans hclosed
  | close hcall => cases (h.calls _).symm.trans hcall
  | report hcall => cases (h.calls _).symm.trans hcall

abbrev Run (client : FailoverClient σ) : State σ ι → State σ ι → Prop :=
  Relation.ReflTransGen (Step client)

/-- However the callers take turns, at most one of them closes the client. -/
theorem untouched_or_closedBy_of_run {world : σ} (h : Run client { world } state) :
    Untouched state ∨ ∃ closer, ClosedBy client state closer := by
  induction h with
  | refl => exact .inl ⟨rfl, rfl, fun _ => rfl⟩
  | tail _ hstep ih =>
    rcases ih with huntouched | ⟨closer, hclosed⟩
    · exact huntouched.step hstep
    · exact .inr ⟨closer, hclosed.step hstep⟩

/-! ## Coming back -/

/-- How many steps a caller has yet to take. -/
def CloseCall.stepsLeft (client : FailoverClient σ) : CloseCall σ → Nat
  | .called => client.held.length + 2
  | .closing _ rest => rest.length + 1
  | .passed | .reported _ => 0

/-- A caller that is not back can take one of its steps, whatever the others are at. -/
theorem exists_step {caller : ι} (h : (state.calls caller).outcome? = none) :
    ∃ next, Step client state next ∧
      (next.calls caller).stepsLeft client < (state.calls caller).stepsLeft client := by
  cases hcall : state.calls caller with
  | called =>
    cases hclosed : state.closed with
    | false => exact ⟨_, .claim hcall hclosed, by simp [moved_calls_self, CloseCall.stepsLeft]⟩
    | true => exact ⟨_, .pass hcall hclosed, by simp [moved_calls_self, CloseCall.stepsLeft]⟩
  | closing failures rest =>
    cases rest with
    | nil => exact ⟨_, .report hcall, by simp [moved_calls_self, CloseCall.stepsLeft]⟩
    | cons held rest => exact ⟨_, .close hcall, by simp [moved_calls_self, CloseCall.stepsLeft]⟩
  | passed => simp [hcall, CloseCall.outcome?] at h
  | reported outcome => simp [hcall, CloseCall.outcome?] at h

/-! ## A caller on its own -/

/-- Closes transports one after the other: what is said of them, and what is left of the world. -/
def closeEach : List (Held σ) → σ → List String × σ
  | [], world => ([], world)
  | held :: rest, world =>
    let (first, after) := FailoverClient.closeHeld held world
    let (others, final) := closeEach rest after
    (first ++ others, final)

omit [DecidableEq ι] in
theorem closeAll_eq (client : FailoverClient σ) (world : σ) :
    client.closeAll world =
      (reportOf (closeEach client.held world).1, (closeEach client.held world).2) := by
  rw [FailoverClient.closeAll, FailoverClient.held]
  cases client.fallback <;> simp [closeEach, reportOf]

/-- A caller that is closing can go on to its report by itself. -/
theorem exists_run_closeEach {caller : ι} {failures : List String} {rest : List (Held σ)}
    (hcall : state.calls caller = .closing failures rest) :
    ∃ next, Run client state next ∧
      next.calls caller = .reported (reportOf (failures ++ (closeEach rest state.world).1)) ∧
      next.closed = state.closed ∧ next.world = (closeEach rest state.world).2 := by
  induction rest generalizing state failures with
  | nil =>
    refine ⟨_, .single (.report hcall), ?_, rfl, rfl⟩
    rw [moved_calls_self, closeEach, List.append_nil]
  | cons held rest ih =>
    let after : State σ ι := { state.moved caller
        (.closing (failures ++ (FailoverClient.closeHeld held state.world).1) rest) with
      world := (FailoverClient.closeHeld held state.world).2
      events := state.events ++ [⟨caller, held, (held.transport.close state.world).1⟩] }
    have hafter : after.calls caller =
        .closing (failures ++ (FailoverClient.closeHeld held state.world).1) rest :=
      moved_calls_self _ _ _
    obtain ⟨next, hrun, hback, hclosed, hworld⟩ := ih hafter
    refine ⟨next, .head (.close hcall) hrun, ?_, hclosed, hworld⟩
    rw [hback, List.append_assoc]
    rfl

/-- A caller that is alone with the client comes back with what a close of the client as a transport
comes to, and leaves the same behind. -/
theorem exists_run_close {caller : ι} (hcall : state.calls caller = .called) :
    ∃ next, Run client state next ∧
      (next.calls caller).outcome? =
        some (client.transport.close ⟨state.closed, state.world⟩).1 ∧
      (client.transport.close ⟨state.closed, state.world⟩).2 = ⟨next.closed, next.world⟩ := by
  cases hclosed : state.closed with
  | true =>
    refine ⟨_, .single (.pass hcall hclosed), ?_, ?_⟩
    · rw [moved_calls_self]
      rfl
    · exact congrArg (ClientWorld.mk · state.world) hclosed.symm
  | false =>
    let after : State σ ι := { state.moved caller (.closing [] client.held) with closed := true }
    have hafter : after.calls caller = .closing [] client.held := moved_calls_self _ _ _
    obtain ⟨next, hrun, hback, hset, hworld⟩ := exists_run_closeEach hafter
    have hclose : client.transport.close ⟨false, state.world⟩ =
        (reportOf (closeEach client.held state.world).1,
          ⟨true, (closeEach client.held state.world).2⟩) := by
      simp [FailoverClient.transport, closeAll_eq]
    refine ⟨next, .head (.claim hcall hclosed) hrun, ?_, ?_⟩
    · rw [hback, hclose]
      rfl
    · rw [hclose, hset, hworld]
      rfl

/-! ## Any order of steps -/

/-- A client is closed once, in whatever order callers and calls take their steps.  As long as the
flag is not set nothing is closed and nobody is back.  Once it is set, there is one caller that
closes the transports, each of them at most once and the active one first.  When it is back each has
been closed, and it has success if every close succeeded, and otherwise a failure with what is to be
said of each close that failed, in this order.  Any other caller has not begun, or is back with
success.  Whoever is not back can go on. -/
theorem client_closes_once {world : σ} (h : Run client { world } state) :
    (state.closed = false →
      state.events = [] ∧ ∀ caller, (state.calls caller).outcome? = none) ∧
    (state.closed = true → ∃ closer,
      (∀ event ∈ state.events, event.caller = closer) ∧
      state.events.map CloseEvent.held <+: client.held ∧
      (∀ outcome, (state.calls closer).outcome? = some outcome →
        state.events.map CloseEvent.held = client.held ∧
        ((outcome = .ok () ∧ ∀ event ∈ state.events, event.outcome = .ok ()) ∨
          (outcome = .error (.close (state.events.filterMap CloseEvent.complaint?)) ∧
            ∃ event ∈ state.events, event.outcome ≠ .ok ()))) ∧
      ∀ other, other ≠ closer →
        state.calls other = .called ∨ (state.calls other).outcome? = some (.ok ())) ∧
    ∀ caller, (state.calls caller).outcome? = none → ∃ next, Step client state next ∧
      (next.calls caller).stepsLeft client < (state.calls caller).stepsLeft client := by
  refine ⟨fun hopen => ?_, fun hset => ?_, fun caller => exists_step⟩
  · rcases untouched_or_closedBy_of_run h with huntouched | ⟨closer, hclosed⟩
    · exact ⟨huntouched.events, fun caller => by rw [huntouched.calls caller]; rfl⟩
    · cases hopen.symm.trans hclosed.closed
  · rcases untouched_or_closedBy_of_run h with huntouched | ⟨closer, hclosed⟩
    · cases hset.symm.trans huntouched.opened
    · refine ⟨closer, hclosed.own, hclosed.progress.begun, fun outcome hback => ?_,
        fun other hother => ?_⟩
      · obtain ⟨hheld, rfl⟩ := hclosed.progress.outcome hback
        exact ⟨hheld, reportOf_complaints state.events⟩
      · exact (hclosed.others other hother).imp_right fun hpassed => by rw [hpassed]; rfl

/-- A client of two transports that fail when they are closed. -/
def busyClient : FailoverClient (Memory × Memory) where
  mode := .grpcWithRestFallback
  active := ⟨.grpc, Memory.transport.within Prod.fst fun after world => (after, world.2)⟩
  fallback := some ⟨.rest, Memory.transport.within Prod.snd fun after world => (world.1, after)⟩
  degraded := false

def busyWorld : Memory × Memory :=
  ({ closeFailure := some "socket busy" }, { closeFailure := some "pool poisoned" })

/-- Two callers close it, the second while the first is at it, and somebody still makes a call. -/
theorem busyClient_closes_once : ∃ final : State (Memory × Memory) Bool,
    Run busyClient { world := busyWorld } final ∧
      final.world.1.closes = 1 ∧ final.world.2.closes = 1 ∧
      ∃ closer, (∀ event ∈ final.events, event.caller = closer) ∧
        final.events.map CloseEvent.held <+: busyClient.held := by
  have hrun : ∃ final : State (Memory × Memory) Bool,
      Run busyClient { world := busyWorld } final ∧ final.closed = true ∧
        final.world.1.closes = 1 ∧ final.world.2.closes = 1 :=
    ⟨_, .head (@Step.claim _ _ _ _ _ false rfl rfl) <|
      .head (@Step.close _ _ _ _ _ false _ _ _ rfl) <|
      .head (@Step.pass _ _ _ _ _ true rfl rfl) <|
      .head (.perform .stats List.mem_cons_self) <|
      .head (@Step.close _ _ _ _ _ false _ _ _ rfl) <|
      .head (@Step.report _ _ _ _ _ false _ rfl) .refl, rfl, rfl, rfl⟩
  obtain ⟨final, hrun, hset, hfirst, hsecond⟩ := hrun
  obtain ⟨closer, hown, hbegun, -⟩ := (client_closes_once hrun).2.1 hset
  exact ⟨final, hrun, hfirst, hsecond, closer, hown, hbegun⟩

end Closing

end DocBridge
