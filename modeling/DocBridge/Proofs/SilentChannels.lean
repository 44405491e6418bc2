import DocBridge.Grpc.Sharing
import DocBridge.Proofs.GrpcExchanges
import Mathlib.Logic.Relation

/-!
# A closed channel stays silent

Once a channel is closed no call gets a handle any more, so that the only messages still sent are
those for which a handle was taken before.  Every other call comes back with a failure that says
so, also one that was halfway through its messages.
-/

namespace DocBridge.Grpc

/-! ## Failures -/

def Mentions (text part : String) : Prop := ∃ before behind, text = before ++ part ++ behind

def SaysClosed (failure : TransportError) : Prop :=
  Mentions failure.message "grpc transport is closed"

theorem saysClosed_closedFailure (operation : Operation) : SaysClosed (closedFailure operation) :=
  ⟨operation.label ++ ": ", "", (String.append_empty).symm⟩

theorem SaysClosed.collectionFailure {failure : TransportError} (h : SaysClosed failure)
    (step : String) : SaysClosed (collectionFailure step failure) := by
  obtain ⟨before, behind, hmessage⟩ := h
  refine ⟨Operation.deleteCollection.label ++ ": " ++ (step ++ ": " ++ before), behind, ?_⟩
  change Operation.deleteCollection.label ++ ": " ++ (step ++ ": " ++ failure.message) = _
  simp only [hmessage, String.append_assoc]

/-! ## Exchanges -/

namespace Exchange

variable {σ α β : Type}

/-- An exchange that is over, because the channel is closed. -/
def IsOver (exchange : Exchange α) : Prop :=
  ∃ failure, exchange = .done (.error failure) ∧ SaysClosed failure

/-- An exchange that is over as soon as there is no handle for one of its messages, whatever the
answers to those before were. -/
def StopsWhenClosed : Exchange α → Prop
  | .done _ => True
  | .send operation _ _ next =>
    (next (.error (closedFailure operation))).IsOver ∧ ∀ answer, (next answer).StopsWhenClosed
  | .exportStream _ next =>
    (next (.error (closedFailure .exportDocuments))).IsOver ∧
      ∀ answer, (next answer).StopsWhenClosed

theorem isOver_done {failure : TransportError} (h : SaysClosed failure) :
    (done (.error failure) : Exchange α).IsOver := ⟨failure, rfl, h⟩

theorem stopsWhenClosed_ask {ρ : Type} [Message ρ] [Message α] (operation : Operation)
    (procedure : Procedure) (request : ρ) :
    (ask operation procedure request : Exchange α).StopsWhenClosed :=
  ⟨isOver_done (saysClosed_closedFailure operation), fun _ => trivial⟩

theorem IsOver.andThen {exchange : Exchange α} {next : Except TransportError α → Exchange β}
    (h : exchange.IsOver) (hnext : ∀ failure, SaysClosed failure → (next (.error failure)).IsOver) :
    (exchange.andThen next).IsOver := by
  obtain ⟨failure, rfl, hfailure⟩ := h
  exact hnext failure hfailure

/-- Exchanges that stop when the channel is closed stop one after the other, if the second gives up
on such a failure too. -/
theorem StopsWhenClosed.andThen {exchange : Exchange α}
    {next : Except TransportError α → Exchange β} (h : exchange.StopsWhenClosed)
    (hover : ∀ failure, SaysClosed failure → (next (.error failure)).IsOver)
    (hnext : ∀ outcome, (next outcome).StopsWhenClosed) :
    (exchange.andThen next).StopsWhenClosed := by
  induction exchange with
  | done outcome => exact hnext outcome
  | send operation procedure message continuation ih =>
    exact ⟨h.1.andThen hover, fun answer => ih answer (h.2 answer)⟩
  | exportStream message continuation ih =>
    exact ⟨h.1.andThen hover, fun answer => ih answer (h.2 answer)⟩

theorem StopsWhenClosed.refused {exchange : Exchange α} (h : exchange.StopsWhenClosed)
    (hwaits : exchange.outcome? = none) : exchange.refused.IsOver := by
  cases exchange with
  | done outcome => cases hwaits
  | send operation procedure message next => exact h.1
  | exportStream message next => exact h.1

theorem StopsWhenClosed.answered {exchange : Exchange α} (h : exchange.StopsWhenClosed)
    (wire : Wire σ) (world : σ) : (exchange.answered wire world).1.StopsWhenClosed := by
  cases exchange with
  | done outcome => trivial
  | send operation procedure message next => exact h.2 _
  | exportStream message next => exact h.2 _

theorem IsOver.stopsWhenClosed {exchange : Exchange α} (h : exchange.IsOver) :
    exchange.StopsWhenClosed := by
  obtain ⟨failure, rfl, -⟩ := h
  trivial

end Exchange

/-- A deletion stops at either of its messages. -/
theorem stopsWhenClosed_deleteCollection (request : DeleteCollectionRequest) :
    (deleteCollection request).StopsWhenClosed := by
  refine (Exchange.stopsWhenClosed_ask _ _ _).andThen
    (fun failure hfailure => Exchange.isOver_done (hfailure.collectionFailure "search"))
    fun outcome => ?_
  cases outcome with
  | error failure => trivial
  | ok found =>
    change (if _ then _ else _ : Exchange _).StopsWhenClosed
    split
    · trivial
    · refine (Exchange.stopsWhenClosed_ask _ _ _).andThen
        (fun failure hfailure => Exchange.isOver_done (hfailure.collectionFailure "delete batch"))
        fun outcome => ?_
      cases outcome <;> trivial

/-- Every call is over as soon as it is refused a handle. -/
theorem stopsWhenClosed_exchange (call : Call) : (exchange call).StopsWhenClosed := by
  cases call with
  | health =>
    exact (Exchange.stopsWhenClosed_ask _ _ _).andThen
      (fun failure hfailure => Exchange.isOver_done hfailure) fun _ => trivial
  | delete request =>
    exact (Exchange.stopsWhenClosed_ask _ _ _).andThen
      (fun failure hfailure => Exchange.isOver_done hfailure) fun _ => trivial
  | deleteCollection request => exact stopsWhenClosed_deleteCollection request
  | _ => exact ⟨Exchange.isOver_done (saysClosed_closedFailure _), fun _ => trivial⟩

/-! ## Runs -/

section Runs

variable {σ α : Type} (wire : Wire σ)

theorem run_of_open (exchange : Exchange α) (world : σ) :
    Channel.run wire exchange { world } =
      Channel.run wire (exchange.answered wire world).1
        { world := (exchange.answered wire world).2 } := by
  cases exchange with
  | done outcome => rfl
  | send operation procedure message next => rw [run_send]; rfl
  | exportStream message next => rw [run_exportStream]; rfl

theorem run_of_closed (exchange : Exchange α) (world : σ) :
    Channel.run wire exchange { isOpen := false, world } =
      Channel.run wire exchange.refused { isOpen := false, world } := by
  cases exchange <;> rfl

end Runs

/-! ## Steps -/

namespace Sharing

variable {σ ι : Type} [DecidableEq ι] {wire : Wire σ}

abbrev Run (wire : Wire σ) : State σ ι → State σ ι → Prop := Relation.ReflTransGen (Step wire)

/-- A call without a handle that has a message left to be sent. -/
def Ongoing.Waits (ongoing : Ongoing) : Prop :=
  ongoing.hasHandle = false ∧ ongoing.isBack = false

/-- A call that is back, because the channel is closed. -/
def Ongoing.IsRefused (ongoing : Ongoing) : Prop :=
  ongoing.hasHandle = false ∧ ongoing.rest.IsOver

theorem Ongoing.exists_failure_of_isRefused {ongoing : Ongoing} (h : ongoing.IsRefused) :
    ∃ failure, ongoing.failure? = some failure ∧ SaysClosed failure := by
  obtain ⟨failure, hover, hsays⟩ := h.2
  exact ⟨failure, by rw [failure?, hover]; rfl, hsays⟩

theorem Ongoing.isRefused_of_waits {ongoing : Ongoing} (hstops : ongoing.rest.StopsWhenClosed)
    (h : ongoing.Waits) : ongoing.refused.IsRefused :=
  ⟨h.1, hstops.refused (Option.isSome_eq_false_iff.1 h.2 |> Option.isNone_iff_eq_none.1)⟩

theorem moved_calls_self (state : State σ ι) (caller : ι) (ongoing : Ongoing) :
    (state.moved caller ongoing).calls caller = ongoing := if_pos rfl

/-- What holds of every call still does if it holds of the one that has moved. -/
theorem forall_moved (state : State σ ι) {caller : ι} {ongoing : Ongoing}
    {P : ι → Ongoing → Prop} (hcaller : P caller ongoing)
    (hothers : ∀ other, other ≠ caller → P other (state.calls other)) (other : ι) :
    P other ((state.moved caller ongoing).calls other) := by
  by_cases hsame : other = caller
  · subst hsame
    rwa [moved_calls_self]
  · have hcalls : (state.moved caller ongoing).calls other = state.calls other := if_neg hsame
    rw [hcalls]
    exact hothers other hsame

/-! ## What every step keeps -/

variable {state next : State σ ι}

/-- Every call is over as soon as it is refused a handle. -/
def AllStop (state : State σ ι) : Prop :=
  ∀ caller, (state.calls caller).rest.StopsWhenClosed

omit [DecidableEq ι] in
theorem allStop_begin (channel : Channel σ) (requests : ι → Call) :
    AllStop (State.begin channel requests) :=
  fun caller => stopsWhenClosed_exchange (requests caller)

theorem AllStop.step (h : AllStop state) (hstep : Step wire state next) : AllStop next := by
  cases hstep with
  | @acquire caller _ _ _ =>
    exact forall_moved state (P := fun _ ongoing => ongoing.rest.StopsWhenClosed) (h caller)
      fun other _ => h other
  | @refuse caller hfree hwaits _ =>
    exact forall_moved state (P := fun _ ongoing => ongoing.rest.StopsWhenClosed)
      (Ongoing.isRefused_of_waits (h caller) ⟨hfree, hwaits⟩).2.stopsWhenClosed
      fun other _ => h other
  | @deliver caller _ _ =>
    exact forall_moved state (P := fun _ ongoing => ongoing.rest.StopsWhenClosed)
      ((h caller).answered wire _) fun other _ => h other
  | close => exact h

theorem AllStop.run (h : AllStop state) (hrun : Run wire state next) : AllStop next := by
  induction hrun with
  | refl => exact h
  | tail _ hstep ih => exact ih.step hstep

/-- Every close so far has succeeded. -/
def AllClosed (state : State σ ι) : Prop := ∀ outcome ∈ state.closes, outcome = .ok ()

theorem AllClosed.step (h : AllClosed state) (hstep : Step wire state next) : AllClosed next := by
  cases hstep with
  | acquire _ _ _ | refuse _ _ _ | deliver _ _ => exact h
  | close => exact List.forall_mem_append.2 ⟨h, List.forall_mem_singleton.2 rfl⟩

theorem AllClosed.run (h : AllClosed state) (hrun : Run wire state next) : AllClosed next := by
  induction hrun with
  | refl => exact h
  | tail _ hstep ih => exact ih.step hstep

/-! ## Once it is closed -/

/-- What may become of a call on a closed channel: nothing, a failure without a message if it had no
handle, or its message with the handle that it had. -/
inductive CallSince (was now : Ongoing) : Prop
  | same (hsame : now = was)
  | refused (hfree : was.hasHandle = false) (hrefused : now.IsRefused) (hsent : now.sent = was.sent)
  | spent (hhandle : was.hasHandle = true) (hfree : now.hasHandle = false)
      (hsent : now.sent = was.sent ++ was.rest.message?.toList)

theorem CallSince.refuse {was now : Ongoing} (h : CallSince was now)
    (hstops : now.rest.StopsWhenClosed) (hwaits : now.Waits) : CallSince was now.refused := by
  have hrefused := Ongoing.isRefused_of_waits hstops hwaits
  cases h with
  | same hsame =>
    subst hsame
    exact .refused hwaits.1 hrefused rfl
  | refused hfree _ hsent => exact .refused hfree hrefused hsent
  | spent hhandle _ hsent => exact .spent hhandle hwaits.1 hsent

/-- A call that has a handle now has had it all the time. -/
theorem CallSince.deliver {was now : Ongoing} (h : CallSince was now)
    (hhandle : now.hasHandle = true) (wire : Wire σ) (world : σ) :
    CallSince was (now.answered wire world) := by
  cases h with
  | same hsame =>
    subst hsame
    exact .spent hhandle rfl rfl
  | refused _ hrefused _ => exact absurd (hrefused.1.symm.trans hhandle) Bool.false_ne_true
  | spent _ hfree _ => exact absurd (hfree.symm.trans hhandle) Bool.false_ne_true

/-- A channel in use that was found closed: it is closed still, and no call has taken a handle
since. -/
structure SilentSince (before now : State σ ι) : Prop where
  closed : now.channel.isOpen = false
  calls : ∀ caller, CallSince (before.calls caller) (now.calls caller)

/-- Behind a close no call takes a handle any more: a step spends one, refuses a call or closes
again. -/
theorem SilentSince.step {before now : State σ ι} (h : SilentSince before now)
    (hstops : AllStop now) (hstep : Step wire now next) : SilentSince before next := by
  cases hstep with
  | acquire _ _ hopen => cases h.closed.symm.trans hopen
  | @refuse caller hfree hwaits _ =>
    have hcaller := (h.calls caller).refuse (hstops caller) ⟨hfree, hwaits⟩
    exact ⟨h.closed, forall_moved now hcaller fun other _ => h.calls other⟩
  | @deliver caller hhandle _ =>
    have hcaller := (h.calls caller).deliver hhandle wire now.channel.world
    exact ⟨h.closed, forall_moved now hcaller fun other _ => h.calls other⟩
  | close => exact ⟨rfl, h.calls⟩

/-- Whatever happens behind a close, only the messages that had a handle are sent. -/
theorem silentSince_of_run (hclosed : state.channel.isOpen = false) (hstops : AllStop state)
    (hrun : Run wire state next) : SilentSince state next := by
  induction hrun with
  | refl => exact ⟨hclosed, fun _ => .same rfl⟩
  | tail hrun hstep ih => exact ih.step (hstops.run hrun) hstep

/-! ## A call on its own -/

/-- A call without a handle goes on by one message, or is refused a handle for it. -/
theorem exists_run_next (wire : Wire σ) {caller : ι} {call : Call} {rest : Exchange call.Reply}
    {sent : List (String × Json)} (hcall : state.calls caller = ⟨call, rest, false, sent⟩)
    (hwaits : rest.outcome? = none) :
    ∃ next other more, Run wire state next ∧
      next.calls caller = ⟨call, other, false, sent ++ more⟩ ∧
      state.channel.run wire rest = next.channel.run wire other ∧
      (other = (rest.answered wire state.channel.world).1 ∨ other = rest.refused) := by
  have hfree : (state.calls caller).hasHandle = false := by rw [hcall]
  have hgoing : (state.calls caller).isBack = false := by rw [hcall, Ongoing.isBack, hwaits]; rfl
  cases hopen : state.channel.isOpen with
  | false =>
    have hchannel : state.channel = { isOpen := false, world := state.channel.world } := by
      rw [← hopen]
    refine ⟨_, rest.refused, [], .single (.refuse hfree hgoing hopen), ?_, ?_, .inr rfl⟩
    · rw [moved_calls_self, hcall, List.append_nil]
      rfl
    · change _ = state.channel.run wire rest.refused
      rw [hchannel, run_of_closed]
  | true =>
    have hchannel : state.channel = { world := state.channel.world } := by rw [← hopen]
    let taken : State σ ι := state.moved caller (state.calls caller).equipped
    have htaken : taken.calls caller = ⟨call, rest, true, sent⟩ := by
      rw [moved_calls_self, hcall]
      rfl
    have hsends : (taken.calls caller).isBack = false := by rw [htaken, Ongoing.isBack, hwaits]; rfl
    have hhandle : (taken.calls caller).hasHandle = true := by rw [htaken]
    refine ⟨_, _, rest.message?.toList,
      .head (.acquire hfree hgoing hopen) (.single (.deliver hhandle hsends)), ?_, ?_, .inl rfl⟩
    · rw [htaken]
      exact moved_calls_self taken caller _
    · rw [htaken]
      change _ = Channel.run wire _ { isOpen := state.channel.isOpen, world := _ }
      rw [hopen]
      exact (congrArg (Channel.run wire rest) hchannel).trans (run_of_open wire rest _)

/-- A call that is alone with the channel comes to what it comes to as a call on the transport. -/
theorem exists_run_perform {caller : ι} {call : Call}
    (hcall : state.calls caller = .ofCall call) :
    ∃ final sent, Run wire state final ∧
      final.calls caller =
        ⟨call, .done ((transport wire).perform call state.channel).1, false, sent⟩ ∧
      final.channel = ((transport wire).perform call state.channel).2 := by
  have hrest : ∀ (rest : Exchange call.Reply) (state : State σ ι) (sent : List (String × Json)),
      state.calls caller = ⟨call, rest, false, sent⟩ →
      ∃ final sent, Run wire state final ∧
        final.calls caller = ⟨call, .done (state.channel.run wire rest).1, false, sent⟩ ∧
        final.channel = (state.channel.run wire rest).2 := by
    intro rest
    induction rest with
    | done outcome => exact fun state sent hcall => ⟨state, sent, .refl, hcall, rfl⟩
    | send operation procedure message continuation ih
    | exportStream message continuation ih =>
      intro state sent hcall
      obtain ⟨next, other, more, hnext, hcalls, hrun, hother⟩ :=
        exists_run_next wire hcall rfl
      have hgoesOn : ∃ answer, other = continuation answer := by
        rcases hother with rfl | rfl
        · exact ⟨_, rfl⟩
        · exact ⟨_, rfl⟩
      obtain ⟨answer, rfl⟩ := hgoesOn
      obtain ⟨final, sent, hfinal, hback, hchannel⟩ := ih answer next _ hcalls
      exact ⟨final, sent, hnext.trans hfinal, by rw [hback, hrun], by rw [hchannel, hrun]⟩
  exact hrest (exchange call) state [] hcall

/-! ## Any order of steps -/

/-- Every call begins with a message. -/
theorem Ongoing.waits_ofCall (call : Call) : (ofCall call).Waits := by
  cases call <;> exact ⟨rfl, rfl⟩

/-- A closed channel stays silent, in whatever order calls and closes take their steps.  It is never
opened again, and every close of it succeeds.  A call that had a handle when the channel was closed
sends the message that it had it for, and no more.  A call that had none, but something left to be
sent, does not send it: it is where it was, or back with a failure that says that the channel is
closed.  Whatever has something left to be sent and no handle comes back with such a failure in its
next step. -/
theorem closed_channel_stays_silent {channel : Channel σ} {requests : ι → Call}
    {state final : State σ ι} (hbefore : Run wire (.begin channel requests) state)
    (hclosed : state.channel.isOpen = false) (hafter : Run wire state final) :
    final.channel.isOpen = false ∧
    (∀ outcome ∈ final.closes, outcome = .ok ()) ∧
    (∀ caller, (final.calls caller).sent <+:
      (state.calls caller).sent ++ (state.calls caller).rest.message?.toList) ∧
    (∀ caller, (state.calls caller).Waits →
      (final.calls caller).sent = (state.calls caller).sent ∧
      (final.calls caller = state.calls caller ∨
        ∃ failure, (final.calls caller).failure? = some failure ∧ SaysClosed failure)) ∧
    ∀ caller, (final.calls caller).Waits → ∃ next failure, Step wire final next ∧
      (next.calls caller).failure? = some failure ∧ SaysClosed failure := by
  have hstops := (allStop_begin channel requests).run hbefore
  have hcloses : AllClosed (State.begin channel requests) := List.forall_mem_nil _
  have hsilent := silentSince_of_run hclosed hstops hafter
  refine ⟨hsilent.closed, hcloses.run (hbefore.trans hafter), fun caller => ?_,
    fun caller hwaits => ?_, fun caller hwaits => ?_⟩
  · cases hsilent.calls caller with
    | same hsame => exact hsame ▸ List.prefix_append _ _
    | refused _ _ hsent => exact hsent ▸ List.prefix_append _ _
    | spent _ _ hsent => exact hsent ▸ List.prefix_rfl
  · cases hsilent.calls caller with
    | same hsame => exact ⟨congrArg Ongoing.sent hsame, .inl hsame⟩
    | refused _ hrefused hsent =>
      exact ⟨hsent, .inr (Ongoing.exists_failure_of_isRefused hrefused)⟩
    | spent hhandle _ _ => exact absurd (hwaits.1.symm.trans hhandle) Bool.false_ne_true
  · have hrefused := Ongoing.isRefused_of_waits (hstops.run hafter caller) hwaits
    obtain ⟨failure, hfailure, hsays⟩ := Ongoing.exists_failure_of_isRefused hrefused
    refine ⟨_, failure, .refuse hwaits.1 hwaits.2 hsilent.closed, ?_, hsays⟩
    rw [moved_calls_self]
    exact hfailure

/-- A store that finds one document, whatever is searched for. -/
def oneNoteWire : Wire Unit where
  send _ _ world := (.ok (encode ({ documents := [{ key := "a" }] } : SearchReply)), world)
  sendExport _ world := (.ok { data := [] }, world)

/-- The deletion of a collection, and a call that begins later. -/
def lateRequests : Bool → Call
  | false => .deleteCollection { collection := "notes" }
  | true => .health

/-- A channel is closed when the documents of a collection have been found and not yet deleted.
They stay, and what is called later comes to nothing as well. -/
theorem deletion_stops_between_messages : ∃ state final : State Unit Bool,
    Run oneNoteWire (.begin { world := () } lateRequests) state ∧ Run oneNoteWire state final ∧
    (final.calls false).sent.map Prod.fst = [procedurePath "Search"] ∧
    (final.calls true).sent = [] ∧
    ∀ caller, ∃ failure, (final.calls caller).failure? = some failure ∧ SaysClosed failure := by
  have hruns : ∃ state final : State Unit Bool,
      Run oneNoteWire (.begin { world := () } lateRequests) state ∧ Run oneNoteWire state final ∧
        state.channel.isOpen = false ∧ (∀ caller, (state.calls caller).Waits) ∧
        (∀ caller, (final.calls caller).isBack = true) ∧
        (state.calls false).sent.map Prod.fst = [procedurePath "Search"] ∧
        (state.calls true).sent = [] :=
    ⟨_, _, .head (@Step.acquire _ _ _ _ _ false rfl rfl rfl) <|
        .head (@Step.deliver _ _ _ _ _ false rfl rfl) <| .single .close,
      .head (@Step.refuse _ _ _ _ _ true rfl rfl rfl) <|
        .single (@Step.refuse _ _ _ _ _ false rfl rfl rfl),
      rfl, Bool.forall_bool.2 ⟨⟨rfl, rfl⟩, Ongoing.waits_ofCall .health⟩,
      Bool.forall_bool.2 ⟨rfl, rfl⟩, rfl, rfl⟩
  obtain ⟨state, final, hbefore, hafter, hclosed, hwaits, hback, hsearch, hnothing⟩ := hruns
  obtain ⟨-, -, -, hrefused, -⟩ := closed_channel_stays_silent hbefore hclosed hafter
  refine ⟨state, final, hbefore, hafter, ?_, ?_, fun caller => ?_⟩
  · rw [(hrefused false (hwaits false)).1]
    exact hsearch
  · rw [(hrefused true (hwaits true)).1]
    exact hnothing
  · refine (hrefused caller (hwaits caller)).2.resolve_left fun hsame => ?_
    exact Bool.false_ne_true ((hwaits caller).2.symm.trans (hsame ▸ hback caller))

end Sharing

end DocBridge.Grpc
