import DocBridge.Proofs.CompactTexts
import DocBridge.Proofs.LineLocality
import Mathlib.Data.List.Forall2

/-!
# The stream of responses

What serving writes is a sequence of lines, one for every request that carries an id, in the order
of the requests.  Whatever the store replies and whatever its documents hold, a response stays on
its line, and its line is one JSON object with the id that was asked for.
-/

namespace DocBridge

open Json

variable {σ : Type}

/-- The id under which a line awaits a response.  A notification awaits none, and an id that is
null is an id. -/
def awaitedId? (line : Bytes) : Option Json := (requestOfLine? line).bind RpcRequest.id

example : awaitedId? (utf8Bytes "\x7b\"id\":null,\"method\":\"ping\"\x7d") = some .null := by
  cbv

/-- A text that is one JSON object and nothing else: a response under an id, with a result or an
error and not with both. -/
def IsResponseTo (id : Json) (text : Bytes) : Prop :=
  ∃ name value, (name = "result" ∨ name = "error") ∧
    text = Utf8.encode
      (Json.object [("jsonrpc", .string "2.0"), ("id", id), (name, value)]).compact ∧
    Outline.ofBytes text =
      ⟨.object [(Outline.textOf "jsonrpc", .string (Outline.textOf "2.0")),
        (Outline.textOf "id", Outline.ofJson id),
        (Outline.textOf name, Outline.ofJson value)] true, false⟩

/-- What a line of input adds to the output: a line with the response that it awaits, or nothing. -/
def Contributes (line piece : Bytes) : Prop :=
  match awaitedId? line with
  | some id => ∃ text, piece = text ++ [newline] ∧ newline ∉ text ∧ IsResponseTo id text
  | none => piece = []

/-- No compact text goes over more than one line, so that a line is a response. -/
theorem newline_not_mem_compact (json : Json) : newline ∉ Utf8.encode json.compact :=
  fun hmem => absurd (Outline.noControls_compact json newline hmem) (by decide)

/-- An outcome is written as one line, which is a response to the request. -/
theorem responseLine_ofOutcome (id : Json) (outcome : RpcOutcome) :
    ∃ text, responseLine (.ofOutcome (some id) outcome) = text ++ [newline] ∧ newline ∉ text ∧
      IsResponseTo id text := by
  refine ⟨_, rfl, newline_not_mem_compact _, ?_⟩
  cases outcome with
  | ok result =>
    exact ⟨"result", result, .inl rfl, rfl, Outline.ofBytes_compact _⟩
  | error failure =>
    obtain ⟨code, message⟩ := failure
    exact ⟨"error", _, .inr rfl, rfl, Outline.ofBytes_compact _⟩

/-- A request with an identifier gets an outcome, any other gets no response. -/
theorem exists_handleRequest_eq (transport : Transport σ) (request : RpcRequest) (world : σ) :
    ∃ outcome, (handleRequest transport request world).1 =
      request.id.map fun id => .ofOutcome (some id) outcome := by
  refine ⟨(carryOutRequest transport request.version request.method request.params world).1, ?_⟩
  obtain ⟨version, id, method, params⟩ := request
  cases id <;> rfl

/-- One line of input adds its response and nothing else. -/
theorem serveLine_contributes (transport : Transport σ) (written : Written) (world : σ)
    (line : Bytes) :
    ∃ piece, Contributes line piece ∧
      (serveLine transport {} (written, world) line).1.bytes = written.bytes ++ piece ∧
      (serveLine transport {} (written, world) line).1.writes =
        written.writes + (awaitedId? line).toList.length := by
  rw [serveLine_eq]
  simp only [Contributes, awaitedId?, Written.extend]
  cases requestOfLine? line with
  | none => exact ⟨[], rfl, rfl, rfl⟩
  | some request =>
    obtain ⟨outcome, houtcome⟩ := exists_handleRequest_eq transport request world
    simp only [answerRequests, Option.toList_some, Option.bind_some, houtcome, List.append_nil]
    cases request.id with
    | none => exact ⟨[], rfl, rfl, rfl⟩
    | some id =>
      obtain ⟨text, hline, hresponse⟩ := responseLine_ofOutcome id outcome
      refine ⟨text ++ [newline], ⟨text, rfl, hresponse⟩, ?_, rfl⟩
      simp [hline]

/-- A run over lines adds what each of them contributes, in their order. -/
theorem foldl_serveLine_contributes (transport : Transport σ) (written : Written) (world : σ)
    (lines : List Bytes) :
    ∃ pieces, List.Forall₂ Contributes lines pieces ∧
      (lines.foldl (serveLine transport {}) (written, world)).1.bytes =
        written.bytes ++ pieces.flatten ∧
      (lines.foldl (serveLine transport {}) (written, world)).1.writes =
        written.writes + (lines.filterMap awaitedId?).length := by
  induction lines generalizing written world with
  | nil => exact ⟨[], .nil, by simp, rfl⟩
  | cons line rest ih =>
    obtain ⟨piece, hpiece, hbytes, hwrites⟩ := serveLine_contributes transport written world line
    rw [List.foldl_cons]
    cases hserved : serveLine transport {} (written, world) line with
    | mk between after =>
      rw [hserved] at hbytes hwrites
      obtain ⟨pieces, hpieces, hrest, hmore⟩ := ih between after
      refine ⟨piece :: pieces, .cons hpiece hpieces, ?_, ?_⟩
      · rw [hrest, hbytes, List.flatten_cons, List.append_assoc]
      · rw [hmore, hwrites]
        cases hid : awaitedId? line <;> simp [hid]
        omega

/-! ## The lines of the output -/

/-- What the lines contribute is a line for each id that is awaited. -/
theorem exists_answers {lines pieces : List Bytes} (h : List.Forall₂ Contributes lines pieces) :
    ∃ answers, pieces.flatten = answers.flatMap (· ++ [newline]) ∧
      (∀ answer ∈ answers, newline ∉ answer) ∧
      List.Forall₂ IsResponseTo (lines.filterMap awaitedId?) answers := by
  induction h with
  | nil => exact ⟨[], rfl, nofun, .nil⟩
  | @cons line piece lines pieces hpiece _ ih =>
    obtain ⟨answers, hflatten, hlines, hanswers⟩ := ih
    unfold Contributes at hpiece
    split at hpiece
    · rename_i id hid
      obtain ⟨text, rfl, htext, hresponse⟩ := hpiece
      refine ⟨text :: answers, ?_, List.forall_mem_cons.2 ⟨htext, hlines⟩, ?_⟩
      · rw [List.flatten_cons, hflatten, List.flatMap_cons]
      · rw [List.filterMap_cons_some hid]
        exact .cons hresponse hanswers
    · rename_i hid
      refine ⟨answers, ?_, hlines, ?_⟩
      · rw [List.flatten_cons, hpiece, hflatten, List.nil_append]
      · rwa [List.filterMap_cons_none hid]

theorem splitAll_newline_flatMap {answers : List Bytes}
    (h : ∀ answer ∈ answers, newline ∉ answer) :
    splitAll (· == newline) (answers.flatMap (· ++ [newline])) = answers ++ [[]] := by
  induction answers with
  | nil => rfl
  | cons answer rest ih =>
    obtain ⟨hanswer, hrest⟩ := List.forall_mem_cons.1 h
    rw [List.flatMap_cons, List.append_assoc, List.singleton_append,
      splitAll_newline_append_cons, splitAll_newline_of_not_mem hanswer, ih hrest]
    rfl

theorem count_newline_flatMap {answers : List Bytes}
    (h : ∀ answer ∈ answers, newline ∉ answer) :
    (answers.flatMap (· ++ [newline])).count newline = answers.length := by
  induction answers with
  | nil => rfl
  | cons answer rest ih =>
    obtain ⟨hanswer, hrest⟩ := List.forall_mem_cons.1 h
    rw [List.flatMap_cons, List.count_append, List.count_append, ih hrest,
      List.count_eq_zero.2 hanswer, List.count_singleton_self, List.length_cons]
    omega

theorem getLast?_flatMap_newline {answers : List Bytes}
    (h : answers.flatMap (· ++ [newline]) ≠ []) :
    (answers.flatMap (· ++ [newline])).getLast? = some newline := by
  induction answers with
  | nil => exact absurd rfl h
  | cons answer rest ih =>
    rw [List.flatMap_cons, List.getLast?_append, List.getLast?_append]
    by_cases hrest : rest.flatMap (· ++ [newline]) = []
    · rw [hrest]
      rfl
    · rw [ih hrest]
      rfl

/-- The output is never corrupted.  It is made of the pieces that the lines of input contribute,
and of nothing else; so its lines are the responses to the ids that are awaited, in their order,
it holds as many newlines as there are responses, and the last of its bytes is one. -/
theorem serve_answers_awaited_ids (transport : Transport σ) (input : InputStream) (world : σ) :
    let written := (serve transport input {} world).1
    ∃ pieces answers : List Bytes,
      List.Forall₂ Contributes input.lines pieces ∧
      written.bytes = pieces.flatten ∧
      List.Forall₂ IsResponseTo (input.lines.filterMap awaitedId?) answers ∧
      splitAll (· == newline) written.bytes = answers ++ [[]] ∧
      written.writes = answers.length ∧
      written.bytes.count newline = written.writes ∧
      (written.bytes ≠ [] → written.bytes.getLast? = some newline) := by
  intro written
  have hserve : written =
      (input.lines.foldl (serveLine transport {}) ({}, world)).1 := by
    change (serve transport input {} world).1 = _
    rw [serve, serveFrom_eq_foldl transport {} input.failure [] List.not_mem_nil]
    rfl
  obtain ⟨pieces, hpieces, hbytes, hwrites⟩ :=
    foldl_serveLine_contributes transport {} world input.lines
  obtain ⟨answers, hflatten, hlines, hanswers⟩ := exists_answers hpieces
  rw [List.nil_append] at hbytes
  rw [hanswers.length_eq, Nat.zero_add] at hwrites
  refine ⟨pieces, answers, hpieces, ?_, hanswers, ?_, ?_, ?_, ?_⟩
  · rw [hserve, hbytes]
  · rw [hserve, hbytes, hflatten]
    exact splitAll_newline_flatMap hlines
  · rw [hserve, hwrites]
  · rw [hserve, hbytes, hflatten, hwrites]
    exact count_newline_flatMap hlines
  · rw [hserve, hbytes, hflatten]
    exact getLast?_flatMap_newline

end DocBridge
