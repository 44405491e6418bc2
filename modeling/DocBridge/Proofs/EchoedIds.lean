import DocBridge.Proofs.RequestEdits
import Mathlib.Data.List.Forall2

/-!
# Ids are only echoed

An id says who waits for a response, and nothing else.  So two sequences of requests that differ in
their ids alone have the same effects step by step, and where both are answered the answers differ
in the ids that they give back.
-/

namespace DocBridge

variable {σ : Type}

/-! ## One request -/

/-- Two requests that differ in their ids alone, if at all. -/
structure RpcRequest.SameButId (first second : RpcRequest) : Prop where
  version : first.version = second.version
  method : first.method = second.method
  params : first.params = second.params

/-- Two places with a response or without one.  Where both have one, the responses differ in their
ids alone. -/
def SameResponses (first second : Option RpcResponse) : Prop :=
  ∀ response ∈ first, ∀ other ∈ second, { response with id := other.id } = other

/-- The place of a response to a request: nothing without an id, and otherwise a response that gives
the id back. -/
inductive RpcRequest.Echoes (request : RpcRequest) : Option RpcResponse → Prop
  | silent (hid : request.id = none) : Echoes request none
  | answered {id : Json} {response : RpcResponse} (hid : request.id = some id)
      (hresponse : response.id = some id) : Echoes request (some response)

theorem RpcResponse.id_ofOutcome (id : Option Json) (outcome : RpcOutcome) :
    (ofOutcome id outcome).id = id := by
  cases outcome <;> rfl

theorem RpcResponse.ofOutcome_with_id (id other : Option Json) (outcome : RpcOutcome) :
    { ofOutcome id outcome with id := other } = ofOutcome other outcome := by
  cases outcome <;> rfl

/-- A request is carried out without its id, which then goes into the response. -/
theorem handleRequest_eq (transport : Transport σ) (request : RpcRequest) (world : σ) :
    handleRequest transport request world =
      let (outcome, after) :=
        carryOutRequest transport request.version request.method request.params world
      (request.id.map fun id => .ofOutcome (some id) outcome, after) := by
  rw [handleRequest, RpcRequest.isNotification]
  cases request.id <;> rfl

/-- A response carries the identifier of its request, and there is none without one. -/
theorem RpcRequest.echoes_handleRequest (transport : Transport σ) (request : RpcRequest)
    (world : σ) : request.Echoes (handleRequest transport request world).1 := by
  rw [handleRequest_eq]
  cases hid : request.id with
  | none => exact .silent hid
  | some id => exact .answered hid (RpcResponse.id_ofOutcome _ _)

section SameButId

variable {first second : RpcRequest}

/-- The world does not depend on the identifiers. -/
theorem RpcRequest.SameButId.world_eq (h : first.SameButId second) (transport : Transport σ)
    (world : σ) :
    (handleRequest transport first world).2 = (handleRequest transport second world).2 := by
  simp only [handleRequest_eq, h.version, h.method, h.params]

/-- Nothing in a response but its own identifier depends on that of the request. -/
theorem RpcRequest.SameButId.sameResponses (h : first.SameButId second) (transport : Transport σ)
    (world : σ) :
    SameResponses (handleRequest transport first world).1
      (handleRequest transport second world).1 := by
  intro response hresponse other hother
  simp only [handleRequest_eq, h.version, h.method, h.params, Option.mem_def,
    Option.map_eq_some_iff] at hresponse hother
  obtain ⟨id, -, rfl⟩ := hresponse
  obtain ⟨otherId, -, rfl⟩ := hother
  rw [RpcResponse.id_ofOutcome, RpcResponse.ofOutcome_with_id]

end SameButId

/-! ## Many requests -/

/-- Handles requests in their order: a place for the response to each of them, and what is left of
the world. -/
def answerEach (transport : Transport σ) : List RpcRequest → σ → List (Option RpcResponse) × σ
  | [], world => ([], world)
  | request :: rest, world =>
    let (response, after) := handleRequest transport request world
    let (responses, final) := answerEach transport rest after
    (response :: responses, final)

theorem answerEach_cons (transport : Transport σ) (request : RpcRequest) (rest : List RpcRequest)
    (world : σ) :
    answerEach transport (request :: rest) world =
      ((handleRequest transport request world).1 ::
          (answerEach transport rest (handleRequest transport request world).2).1,
        (answerEach transport rest (handleRequest transport request world).2).2) := rfl

/-- Without the empty places these are the responses that are written. -/
theorem answerRequests_eq_answerEach (transport : Transport σ) (requests : List RpcRequest)
    (world : σ) :
    answerRequests transport requests world =
      ((answerEach transport requests world).1.flatMap Option.toList,
        (answerEach transport requests world).2) := by
  induction requests generalizing world with
  | nil => rfl
  | cons request rest ih => simp only [answerRequests, answerEach, ih, List.flatMap_cons]

theorem echoes_answerEach (transport : Transport σ) (requests : List RpcRequest) (world : σ) :
    List.Forall₂ RpcRequest.Echoes requests (answerEach transport requests world).1 := by
  induction requests generalizing world with
  | nil => exact .nil
  | cons request rest ih => exact .cons (request.echoes_handleRequest transport world) (ih _)

section SameButId

variable {first second : List RpcRequest}

theorem world_answerEach_of_sameButId (h : List.Forall₂ RpcRequest.SameButId first second)
    (transport : Transport σ) (world : σ) :
    (answerEach transport first world).2 = (answerEach transport second world).2 := by
  induction h generalizing world with
  | nil => rfl
  | cons hrequest _ ih =>
    rw [answerEach_cons, answerEach_cons, hrequest.world_eq transport world]
    exact ih _

/-- The responses to two streams differ in no more than the identifiers do. -/
theorem sameResponses_answerEach (h : List.Forall₂ RpcRequest.SameButId first second)
    (transport : Transport σ) (world : σ) :
    List.Forall₂ SameResponses (answerEach transport first world).1
      (answerEach transport second world).1 := by
  induction h generalizing world with
  | nil => exact .nil
  | cons hrequest _ ih =>
    rw [answerEach_cons, answerEach_cons, ← hrequest.world_eq transport world]
    exact .cons (hrequest.sameResponses transport world) (ih _)

/-- Ids do nothing but come back.  Two sequences of requests that differ in their ids alone lead to
the same world after every one of their requests, and make the same calls until then.  A request
without an id has no response, one with an id has a response with that id, and where both sequences
have a response the two differ in their ids alone. -/
theorem ids_are_only_echoed (h : List.Forall₂ RpcRequest.SameButId first second)
    (transport : Transport σ) (world : σ) :
    (∀ count,
      (answerEach transport (first.take count) world).2 =
        (answerEach transport (second.take count) world).2 ∧
      (answerEach transport.recorded (first.take count) (world, [])).2 =
        (answerEach transport.recorded (second.take count) (world, [])).2) ∧
    List.Forall₂ RpcRequest.Echoes first (answerEach transport first world).1 ∧
    List.Forall₂ RpcRequest.Echoes second (answerEach transport second world).1 ∧
    List.Forall₂ SameResponses (answerEach transport first world).1
      (answerEach transport second world).1 := by
  refine ⟨fun count => ?_, echoes_answerEach transport first world,
    echoes_answerEach transport second world, sameResponses_answerEach h transport world⟩
  have hprefix : List.Forall₂ RpcRequest.SameButId (first.take count) (second.take count) :=
    List.forall₂_take count h
  exact ⟨world_answerEach_of_sameButId hprefix transport world,
    world_answerEach_of_sameButId hprefix transport.recorded (world, [])⟩

end SameButId

/-- An addition and a request for statistics, of which one or the other is a notification. -/
def additionThenStats (ids : Option Json × Option Json) : List RpcRequest :=
  [{ additionRequest "Notes" "a" with id := ids.1 },
    { version := "2.0", id := ids.2, method := "tools/call",
      params := some (.object [("name", .string "get_stats")]) }]

/-- A notification writes its document as well, and an id that is null is answered. -/
theorem notified_addition_is_only_silent :
    (answerEach Memory.transport (additionThenStats (none, some (.string "b"))) {}).2.store.clock =
        1 ∧
      (answerEach Memory.transport (additionThenStats (some .null, none)) {}).2.store.clock = 1 ∧
      (answerEach Memory.transport (additionThenStats (none, some (.string "b"))) {}).1.map
        (·.map RpcResponse.id) = [none, some (some (.string "b"))] ∧
      (answerEach Memory.transport (additionThenStats (some .null, none)) {}).1.map
        (·.map RpcResponse.id) = [some (some .null), none] := by
  have hsame : List.Forall₂ RpcRequest.SameButId
      (additionThenStats (none, some (.string "b"))) (additionThenStats (some .null, none)) :=
    .cons ⟨rfl, rfl, rfl⟩ (.cons ⟨rfl, rfl, rfl⟩ .nil)
  obtain ⟨hworlds, -, -, -⟩ := ids_are_only_echoed hsame Memory.transport {}
  let silent := additionThenStats (some .null, none)
  have hclock : (answerEach Memory.transport silent {}).2.store.clock = 1 := rfl
  have hstore := congrArg Memory.store (hworlds 2).1
  exact ⟨(congrArg Store.clock hstore).trans hclock, hclock, rfl, rfl⟩

end DocBridge
