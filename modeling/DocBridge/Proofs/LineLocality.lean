import DocBridge.Proofs.RequestEffects
import DocBridge.Rpc.Lines
import Mathlib.Data.List.TakeWhile

/-!
# Lines are served one by one

Serving reads a stream byte by byte.  Here it is shown to depend on the stream only through the
requests on its lines, and to answer these one after the other.  So a stream can be cut behind any
line, and lines without a request, blanks at the ends of lines and a missing last line end do not
count.
-/

namespace DocBridge

variable {σ : Type}

/-! ## The lines of a stream -/

/-- The lines that are read, without the bytes that end them.  What follows the last of these is a
line of its own if the stream ends, and is not read if it breaks off. -/
def InputStream.lines (stream : InputStream) : List Bytes :=
  let pieces := splitAll (· == newline) stream.bytes
  if stream.failure.isSome then pieces.dropLast else pieces

def InputStream.requests (stream : InputStream) : List RpcRequest :=
  stream.lines.filterMap requestOfLine?

def InputStream.ending (stream : InputStream) : ServeEnd :=
  (stream.failure.map .inputBroke).getD .inputEnded

theorem splitAll_newline_append_cons (before after : Bytes) :
    splitAll (· == newline) (before ++ newline :: after) =
      splitAll (· == newline) before ++ splitAll (· == newline) after :=
  splitAll_append_cons (by simp) before after

theorem splitAll_newline_of_not_mem {bytes : Bytes} (h : newline ∉ bytes) :
    splitAll (· == newline) bytes = [bytes] :=
  splitAll_of_forall_not fun byte hbyte => by
    simpa using fun heq : byte = newline => h (heq ▸ hbyte)

/-- The loop over the bytes does what a fold over the lines does.  The bytes of the line that has
been begun hold no newline, so that they and the rest make up the lines that are left. -/
theorem serveFrom_eq_foldl (transport : Transport σ) (output : OutputStream)
    (failure : Option String) (line : Bytes) (hline : newline ∉ line) (bytes : Bytes)
    (state : Written × σ) :
    serveFrom transport output failure line bytes state =
      let stream : InputStream := ⟨line.reverse ++ bytes, failure⟩
      let final := stream.lines.foldl (serveLine transport output) state
      (final.1, stream.ending, final.2) := by
  induction bytes generalizing line state with
  | nil =>
    have hbegun : splitAll (· == newline) line.reverse = [line.reverse] :=
      splitAll_newline_of_not_mem (mt List.mem_reverse.1 hline)
    cases failure <;>
      simp [serveFrom, InputStream.lines, InputStream.ending, hbegun]
  | cons byte rest ih =>
    by_cases hbyte : byte = newline
    · subst hbyte
      have hpieces := splitAll_newline_append_cons line.reverse rest
      rw [splitAll_newline_of_not_mem (mt List.mem_reverse.1 hline), List.singleton_append]
        at hpieces
      have hrest := splitAll_ne_nil (· == newline) rest
      simp only [serveFrom, ↓reduceIte, ih [] List.not_mem_nil]
      cases failure <;>
        simp [InputStream.lines, InputStream.ending, hpieces, List.dropLast_cons_of_ne_nil hrest]
    · have hlonger : newline ∉ byte :: line := by
        simpa [hline] using fun heq : newline = byte => hbyte heq.symm
      simp [serveFrom, hbyte, ih (byte :: line) hlonger]

/-! ## Answering requests one after the other -/

/-- Handles requests in their order: the responses, and what is left of the world. -/
def answerRequests (transport : Transport σ) : List RpcRequest → σ → List RpcResponse × σ
  | [], world => ([], world)
  | request :: rest, world =>
    let (response, after) := handleRequest transport request world
    let (responses, final) := answerRequests transport rest after
    (response.toList ++ responses, final)

/-- Requests are answered in two goes as in one, if the second begins with the world that the first
leaves. -/
theorem answerRequests_append (transport : Transport σ) (first second : List RpcRequest)
    (world : σ) :
    answerRequests transport (first ++ second) world =
      ((answerRequests transport first world).1 ++
          (answerRequests transport second (answerRequests transport first world).2).1,
        (answerRequests transport second (answerRequests transport first world).2).2) := by
  induction first generalizing world with
  | nil => rfl
  | cons request rest ih => simp [answerRequests, ih]

/-- The calls that are made are planned by the requests alone, whatever the store replies. -/
theorem answerRequests_recorded (transport : Transport σ) (requests : List RpcRequest) (world : σ)
    (calls : List Call) :
    answerRequests transport.recorded requests (world, calls) =
      ((answerRequests transport requests world).1, (answerRequests transport requests world).2,
        calls ++ requests.filterMap RpcRequest.plannedCall?) := by
  induction requests generalizing world calls with
  | nil => simp [answerRequests]
  | cons request rest ih =>
    simp only [answerRequests, handleRequest_recorded, ih]
    cases hcall : request.plannedCall? <;> simp [hcall]

/-- What has been written once the given lines have been offered to the stream one by one. -/
def OutputStream.writeLines (stream : OutputStream) (written : Written) (lines : List Bytes) :
    Written :=
  lines.foldl (fun written line => (stream.writeLine line written).2) written

theorem OutputStream.writeLines_append (stream : OutputStream) (written : Written)
    (first second : List Bytes) :
    stream.writeLines written (first ++ second) =
      stream.writeLines (stream.writeLines written first) second :=
  List.foldl_append

/-- A line with a request is answered; any other is passed over. -/
theorem serveLine_answers (transport : Transport σ) (output : OutputStream) (written : Written)
    (world : σ) (line : Bytes) :
    serveLine transport output (written, world) line =
      let (responses, after) := answerRequests transport (requestOfLine? line).toList world
      (output.writeLines written (responses.map responseLine), after) := by
  simp only [serveLine, answerLine]
  cases requestOfLine? line with
  | none => rfl
  | some request =>
    simp only [answerRequests, Option.toList_some]
    cases handleRequest transport request world with
    | mk response after => cases response <;> rfl

theorem foldl_serveLine_answers (transport : Transport σ) (output : OutputStream)
    (written : Written) (world : σ) (lines : List Bytes) :
    lines.foldl (serveLine transport output) (written, world) =
      let (responses, after) :=
        answerRequests transport (lines.filterMap requestOfLine?) world
      (output.writeLines written (responses.map responseLine), after) := by
  induction lines generalizing written world with
  | nil => rfl
  | cons line rest ih =>
    have hsplit : (line :: rest).filterMap requestOfLine? =
        (requestOfLine? line).toList ++ rest.filterMap requestOfLine? := by
      cases hline : requestOfLine? line <;> simp [hline]
    simp only [List.foldl_cons, serveLine_answers, ih, hsplit, answerRequests_append,
      List.map_append, OutputStream.writeLines_append]

/-- Serving answers the requests of the stream in their order and offers the responses to the
writer, whatever becomes of them there. -/
theorem serve_answers (transport : Transport σ) (input : InputStream) (output : OutputStream)
    (world : σ) :
    serve transport input output world =
      let (responses, after) := answerRequests transport input.requests world
      (output.writeLines {} (responses.map responseLine), input.ending, after) := by
  rw [serve, serveFrom_eq_foldl transport output input.failure [] List.not_mem_nil]
  simp only [List.reverse_nil, List.nil_append, foldl_serveLine_answers]
  rfl

/-! ## A writer that never fails -/

/-- What has been written once the given responses are written too. -/
def Written.extend (written : Written) (responses : List RpcResponse) : Written where
  bytes := written.bytes ++ responses.flatMap responseLine
  writes := written.writes + responses.length
  flushes := written.flushes + responses.length

theorem Written.extend_extend (written : Written) (first second : List RpcResponse) :
    (written.extend first).extend second = written.extend (first ++ second) := by
  simp [Written.extend, Nat.add_assoc]

theorem writeLines_faultless (written : Written) (responses : List RpcResponse) :
    ({} : OutputStream).writeLines written (responses.map responseLine) =
      written.extend responses := by
  induction responses generalizing written with
  | nil => simp [OutputStream.writeLines, Written.extend]
  | cons response rest ih =>
    have hfirst : (({} : OutputStream).writeLine (responseLine response) written).2 =
        written.extend [response] := by
      simp [OutputStream.writeLine, Written.extend]
    change ({} : OutputStream).writeLines
      (({} : OutputStream).writeLine (responseLine response) written).2 _ = _
    rw [hfirst, ih, Written.extend_extend]
    rfl

theorem serveLine_eq (transport : Transport σ) (written : Written) (world : σ) (line : Bytes) :
    serveLine transport {} (written, world) line =
      let (responses, after) := answerRequests transport (requestOfLine? line).toList world
      (written.extend responses, after) := by
  simp only [serveLine_answers, writeLines_faultless]

theorem foldl_serveLine_eq (transport : Transport σ) (written : Written) (world : σ)
    (lines : List Bytes) :
    lines.foldl (serveLine transport {}) (written, world) =
      let (responses, after) :=
        answerRequests transport (lines.filterMap requestOfLine?) world
      (written.extend responses, after) := by
  simp only [foldl_serveLine_answers, writeLines_faultless]

/-! ## What can be seen of serving -/

/-- What can be seen of serving a stream: the bytes that are written, the calls that are made, why
it ends, and what is left of the world. -/
structure Session (σ : Type) where
  output : Bytes
  calls : List Call
  ending : ServeEnd
  world : σ

/-- One session and another one that goes on from its world. -/
def Session.followedBy (first second : Session σ) : Session σ where
  output := first.output ++ second.output
  calls := first.calls ++ second.calls
  ending := second.ending
  world := second.world

/-- Serving a stream with any writer. -/
def sessionOn (transport : Transport σ) (input : InputStream) (output : OutputStream)
    (world : σ) : Session σ where
  output := (serve transport input output world).1.bytes
  calls := (serve transport.recorded input output (world, [])).2.2.2
  ending := (serve transport input output world).2.1
  world := (serve transport input output world).2.2

/-- Serving a stream with a writer that never fails. -/
def session (transport : Transport σ) (input : InputStream) (world : σ) : Session σ :=
  sessionOn transport input {} world

theorem sessionOn_answers (transport : Transport σ) (input : InputStream) (output : OutputStream)
    (world : σ) :
    sessionOn transport input output world =
      { output := (output.writeLines {}
          ((answerRequests transport input.requests world).1.map responseLine)).bytes
        calls := input.requests.filterMap RpcRequest.plannedCall?
        ending := input.ending
        world := (answerRequests transport input.requests world).2 } := by
  simp [sessionOn, serve_answers, answerRequests_recorded]

/-- A session answers the requests on its lines, one after the other, and nothing else. -/
theorem session_eq (transport : Transport σ) (input : InputStream) (world : σ) :
    session transport input world =
      { output := (answerRequests transport input.requests world).1.flatMap responseLine
        calls := input.requests.filterMap RpcRequest.plannedCall?
        ending := input.ending
        world := (answerRequests transport input.requests world).2 } := by
  simp [session, sessionOn_answers, writeLines_faultless, Written.extend]

/-- A session depends on its stream only through the requests and the way the stream ends. -/
theorem sessionOn_congr (transport : Transport σ) (output : OutputStream) {first second : Bytes}
    {failure : Option String}
    (h : InputStream.requests ⟨first, failure⟩ = InputStream.requests ⟨second, failure⟩)
    (world : σ) :
    sessionOn transport ⟨first, failure⟩ output world =
      sessionOn transport ⟨second, failure⟩ output world := by
  rw [sessionOn_answers, sessionOn_answers, h]
  rfl

theorem session_congr (transport : Transport σ) {first second : Bytes} {failure : Option String}
    (h : InputStream.requests ⟨first, failure⟩ = InputStream.requests ⟨second, failure⟩)
    (world : σ) :
    session transport ⟨first, failure⟩ world = session transport ⟨second, failure⟩ world :=
  sessionOn_congr transport {} h world

/-! ## The requests of a stream that is cut or changed -/

/-- Bytes that are cut behind a line: there are none, or the last one ends a line. -/
def WholeLines (bytes : Bytes) : Prop := bytes = [] ∨ ∃ body, bytes = body ++ [newline]

def carriageReturn : UInt8 := 0x0D

theorem requestOfLine?_of_blank {line : Bytes} (h : ∀ byte ∈ line, isLineBlank byte = true) :
    requestOfLine? line = none := by
  have htrim : trim isLineBlank line = [] := by
    simp [trim, List.dropWhile_eq_nil_iff.2 h]
  rw [requestOfLine?, htrim]
  rfl

/-- Lines may end in a carriage return as well. -/
theorem requestOfLine?_append_carriageReturn (line : Bytes) :
    requestOfLine? (line ++ [carriageReturn]) = requestOfLine? line := by
  rw [requestOfLine?, requestOfLine?, trim_append_singleton (by decide)]

theorem requestOfLine?_nil : requestOfLine? [] = none :=
  requestOfLine?_of_blank nofun

theorem requests_append_newline_cons (body rest : Bytes) (failure : Option String) :
    InputStream.requests ⟨body ++ newline :: rest, failure⟩ =
      InputStream.requests ⟨body, none⟩ ++ InputStream.requests ⟨rest, failure⟩ := by
  have hrest := splitAll_ne_nil (· == newline) rest
  cases failure <;>
    simp [InputStream.requests, InputStream.lines, splitAll_newline_append_cons,
      List.dropLast_append_of_ne_nil hrest]

theorem requests_nil (failure : Option String) : InputStream.requests ⟨[], failure⟩ = [] := by
  cases failure <;> simp [InputStream.requests, InputStream.lines, splitAll, requestOfLine?_nil]

/-- A terminator at the very end makes no difference. -/
theorem requests_append_newline (body : Bytes) :
    InputStream.requests ⟨body ++ [newline], none⟩ = InputStream.requests ⟨body, none⟩ := by
  rw [requests_append_newline_cons, requests_nil, List.append_nil]

/-- Behind whole lines a stream is read as if it began there. -/
theorem requests_append {whole : Bytes} (hwhole : WholeLines whole) (rest : Bytes)
    (failure : Option String) :
    InputStream.requests ⟨whole ++ rest, failure⟩ =
      InputStream.requests ⟨whole, none⟩ ++ InputStream.requests ⟨rest, failure⟩ := by
  rcases hwhole with rfl | ⟨body, rfl⟩
  · rw [List.nil_append, requests_nil, List.nil_append]
  · rw [requests_append_newline, ← requests_append_newline_cons, List.append_assoc,
      List.singleton_append]

/-- Bytes without a line end are one line if the stream ends. -/
theorem requests_of_not_mem {line : Bytes} (hline : newline ∉ line) :
    InputStream.requests ⟨line, none⟩ = (requestOfLine? line).toList := by
  simp only [InputStream.requests, InputStream.lines, splitAll_newline_of_not_mem hline]
  cases hrequest : requestOfLine? line <;> simp [hrequest]

/-- Bytes without a line end are no line if the stream breaks off. -/
theorem requests_of_broken {rest : Bytes} (hrest : newline ∉ rest) (reason : String) :
    InputStream.requests ⟨rest, some reason⟩ = [] := by
  simp [InputStream.requests, InputStream.lines, splitAll_newline_of_not_mem hrest]

/-- A byte string is cut behind its last newline. -/
theorem exists_wholeLines_append (bytes : Bytes) :
    ∃ whole line, bytes = whole ++ line ∧ WholeLines whole ∧ newline ∉ line := by
  induction bytes with
  | nil => exact ⟨[], [], rfl, .inl rfl, List.not_mem_nil⟩
  | cons byte rest ih =>
    obtain ⟨whole, line, rfl, hwhole, hline⟩ := ih
    rcases hwhole with rfl | ⟨body, rfl⟩
    · by_cases hbyte : byte = newline
      · exact ⟨[newline], line, by simp [hbyte], .inr ⟨[], rfl⟩, hline⟩
      · exact ⟨[], byte :: line, rfl, .inl rfl, by simp [hline, Ne.symm hbyte]⟩
    · exact ⟨byte :: body ++ [newline], line, by simp, .inr ⟨byte :: body, rfl⟩, hline⟩

theorem requests_append_carriageReturn (bytes : Bytes) :
    InputStream.requests ⟨bytes ++ [carriageReturn], none⟩ =
      InputStream.requests ⟨bytes, none⟩ := by
  obtain ⟨whole, line, rfl, hwhole, hline⟩ := exists_wholeLines_append bytes
  have hlonger : newline ∉ line ++ [carriageReturn] := by
    simpa [hline] using (by decide : newline ≠ carriageReturn)
  rw [List.append_assoc, requests_append hwhole, requests_append hwhole,
    requests_of_not_mem hlonger, requests_of_not_mem hline,
    requestOfLine?_append_carriageReturn]

/-- Serving is local to lines.  A stream that is cut behind a line is served in two sessions, the
second from where the first ended.  So lines that are blank or hold no request, carriage returns
before newlines and a missing last newline change nothing; and if the stream breaks off, the lines
before that have been served and nothing else has. -/
theorem session_line_local (transport : Transport σ) (world : σ) :
    (∀ whole rest failure, WholeLines whole →
      session transport ⟨whole ++ rest, failure⟩ world =
        (session transport ⟨whole, none⟩ world).followedBy
          (session transport ⟨rest, failure⟩ (session transport ⟨whole, none⟩ world).world)) ∧
    (∀ whole line rest failure, WholeLines whole → newline ∉ line →
      (∀ byte ∈ line, isLineBlank byte = true) ∨ requestOfLine? line = none →
      session transport ⟨whole ++ line ++ newline :: rest, failure⟩ world =
        session transport ⟨whole ++ rest, failure⟩ world) ∧
    (∀ line rest failure,
      session transport ⟨line ++ carriageReturn :: newline :: rest, failure⟩ world =
        session transport ⟨line ++ newline :: rest, failure⟩ world) ∧
    (∀ bytes, session transport ⟨bytes ++ [newline], none⟩ world =
      session transport ⟨bytes, none⟩ world) ∧
    (∀ whole rest reason, WholeLines whole → newline ∉ rest →
      session transport ⟨whole ++ rest, some reason⟩ world =
        { session transport ⟨whole, none⟩ world with ending := .inputBroke reason }) := by
  refine ⟨?_, ?_, ?_, ?_, ?_⟩
  · intro whole rest failure hwhole
    simp only [session_eq, Session.followedBy, requests_append hwhole, answerRequests_append,
      List.flatMap_append, List.filterMap_append]
    rfl
  · intro whole line rest failure hwhole hline hidle
    have hnone : requestOfLine? line = none := hidle.elim requestOfLine?_of_blank id
    refine session_congr transport ?_ world
    rw [List.append_assoc, requests_append hwhole, requests_append hwhole,
      requests_append_newline_cons, requests_of_not_mem hline, hnone]
    rfl
  · intro line rest failure
    have hmoved : line ++ carriageReturn :: newline :: rest =
        (line ++ [carriageReturn]) ++ newline :: rest := by simp
    refine session_congr transport ?_ world
    rw [hmoved, requests_append_newline_cons, requests_append_newline_cons,
      requests_append_carriageReturn]
  · intro bytes
    exact session_congr transport (requests_append_newline bytes) world
  · intro whole rest reason hwhole hrest
    simp only [session_eq, requests_append hwhole, requests_of_broken hrest, List.append_nil]
    rfl

def additionLine : Bytes :=
  utf8Bytes ("\x7b\"jsonrpc\":\"2.0\",\"id\":7,\"method\":\"tools/call\",\"params\":" ++
    "\x7b\"name\":\"add_document\",\"arguments\":\x7b\"collection\":\"guides\"," ++
    "\"key\":\"setup\",\"lang\":\"en_US\",\"content_md\":\"Unpack.\"\x7d\x7d\x7d")

theorem session_cut_behind_addition :
    WholeLines (additionLine ++ [newline]) ∧
    newline ∉ utf8Bytes "oops" ∧ requestOfLine? (utf8Bytes "oops") = none ∧
    session Memory.transport ⟨(additionLine ++ [newline]) ++ additionLine, none⟩ {} =
      (session Memory.transport ⟨additionLine ++ [newline], none⟩ {}).followedBy
        (session Memory.transport ⟨additionLine, none⟩
          (session Memory.transport ⟨additionLine ++ [newline], none⟩ {}).world) ∧
    session Memory.transport
        ⟨(additionLine ++ [newline]) ++ utf8Bytes "oops" ++ newline :: additionLine, none⟩ {} =
      session Memory.transport ⟨(additionLine ++ [newline]) ++ additionLine, none⟩ {} ∧
    session Memory.transport ⟨(additionLine ++ [newline]) ++ utf8Bytes "oops", some "gone"⟩ {} =
      { session Memory.transport ⟨additionLine ++ [newline], none⟩ {} with
        ending := .inputBroke "gone" } := by
  have hwhole : WholeLines (additionLine ++ [newline]) := .inr ⟨additionLine, rfl⟩
  have hline : newline ∉ utf8Bytes "oops" := by decide
  have hidle : requestOfLine? (utf8Bytes "oops") = none := rfl
  obtain ⟨hcut, hinsert, _, _, hbroken⟩ := session_line_local Memory.transport {}
  exact ⟨hwhole, hline, hidle, hcut _ _ _ hwhole, hinsert _ _ _ _ hwhole hline (.inr hidle),
    hbroken _ _ _ hwhole hline⟩

end DocBridge
