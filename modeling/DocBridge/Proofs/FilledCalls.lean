import DocBridge.Http.FrontEnd
import DocBridge.Proofs.DecodedArguments
import DocBridge.Proofs.LineLocality
import DocBridge.Transport.Memory

/-!
# What reaches the store is filled in

A call that is asked of the store names what it is about.  Its texts come from the arguments of a
tool, where those that are required are checked, or from a URL.  There the segments without a
character are left out before they are decoded, and decoding never makes a segment empty: neither
a percent sign with its digits nor a sequence of bytes comes to nothing.
-/

namespace DocBridge

variable {σ : Type}

/-! ## Calls -/

/-- A call in which no text is empty that says which documents or which path it is about. -/
def Call.WellFormed : Call → Prop
  | .health | .stats | .truncate _ => True
  | .add request =>
    request.collection ≠ "" ∧ request.key ≠ "" ∧ request.lang ≠ "" ∧ request.contentMd ≠ ""
  | .addBatch batch | .updateBatch batch =>
    batch.collection ≠ "" ∧ ∀ entry ∈ batch.documents, entry.key ≠ ""
  | .deleteBatch batch => batch.collection ≠ "" ∧ ∀ document ∈ batch.documents, document.key ≠ ""
  | .get request => request.collection ≠ "" ∧ request.key ≠ "" ∧ request.lang ≠ ""
  | .delete request => request.collection ≠ "" ∧ request.key ≠ "" ∧ request.lang ≠ ""
  | .search request => request.collection ≠ ""
  | .deleteCollection request => request.collection ≠ ""
  | .exportDocuments request => request.collection ≠ ""
  | .backup request => request.destination ≠ ""
  | .restore request => request.source ≠ ""

/-! ## Calls of tools -/

namespace Arguments

variable {arguments : Arguments} {name text : String}

theorem ne_empty_of_requiredString (h : arguments.requiredString name = .ok text) : text ≠ "" :=
  (requiredString_eq_ok_iff.1 h).2

end Arguments

namespace ToolCall

open Arguments

variable {arguments : Arguments} {toolCall : ToolCall}

theorem wellFormed_of_ofArguments {tool : Tool} (h : ofArguments tool arguments = .ok toolCall) :
    toolCall.call.WellFormed := by
  cases tool with
  | addDocument =>
    simp only [ofArguments, bind_eq_ok_iff, pure_eq_ok_iff] at h
    obtain ⟨_, hcollection, _, hkey, _, hlang, _, hcontent, rfl⟩ := h
    exact ⟨ne_empty_of_requiredString hcollection, ne_empty_of_requiredString hkey,
      ne_empty_of_requiredString hlang, ne_empty_of_requiredString hcontent⟩
  | deleteDocument =>
    simp only [ofArguments, bind_eq_ok_iff, pure_eq_ok_iff] at h
    obtain ⟨_, hcollection, _, hkey, _, hlang, rfl⟩ := h
    exact ⟨ne_empty_of_requiredString hcollection, ne_empty_of_requiredString hkey,
      ne_empty_of_requiredString hlang⟩
  | searchDocuments | deleteCollection | exportDocuments | createBackup | restoreBackup =>
    simp only [ofArguments, bind_eq_ok_iff, pure_eq_ok_iff] at h
    obtain ⟨_, hfilled, rfl⟩ := h
    exact ne_empty_of_requiredString hfilled
  | addBatch | updateBatch | deleteBatch =>
    obtain ⟨batch, hbatch, rfl⟩ := map_eq_ok_iff.1 h
    obtain ⟨_, _, hcollection, -, hkeys, rfl⟩ := takeBatch_eq_ok_iff.1 hbatch
    exact ⟨ne_empty_of_requiredString hcollection, hkeys⟩
  | getStats | truncateRevisions =>
    cases h
    trivial

theorem wellFormed_of_decode {name : String} (h : decode name arguments = .ok toolCall) :
    toolCall.call.WellFormed := by
  rw [decode] at h
  split at h
  · exact wellFormed_of_ofArguments h
  · cases h

end ToolCall

/-! ## Resources -/

namespace Utf8

/-- Reading comes to no character only where there is nothing to read. -/
theorem eq_nil_of_decodeFrom {index : Nat} {state : Option Pending} {bytes : Bytes}
    (h : decodeFrom index state bytes = .ok []) : state = none ∧ bytes = [] := by
  have hcons (character : Char) (rest : Except Fault (List Char)) :
      (character :: ·) <$> rest ≠ .ok [] := by
    cases rest <;> simp [Functor.map, Except.map]
  induction bytes generalizing index state with
  | nil =>
    cases state with
    | none => exact ⟨rfl, rfl⟩
    | some state => cases h
  | cons byte rest ih =>
    cases state with
    | none =>
      rw [decodeFrom] at h
      split at h
      · exact absurd h (hcons _ _)
      · cases (ih h).1
      · cases h
    | some state =>
      rw [decodeFrom] at h
      split at h
      · exact absurd h (hcons _ _)
      · cases (ih h).1
      · cases h

end Utf8

/-- Decoding never makes something nothing, so that no name gets lost by it. -/
theorem Url.percentDecode_ne_nil {bytes : Bytes} (h : bytes ≠ []) : percentDecode bytes ≠ [] := by
  fun_cases percentDecode bytes
  all_goals simp_all

namespace ResourceTarget

theorem ne_empty_of_decodeSegment {url : Url} {segment : List Char} {name : String}
    (hsegment : segment ≠ []) (h : decodeSegment url segment = .ok name) : name ≠ "" := by
  have hbytes := Url.percentDecode_ne_nil (Utf8.encode_ne_nil hsegment)
  rw [decodeSegment] at h
  split at h
  · rename_i text htext
    cases h
    intro hempty
    have hnil : text = [] := by simpa using congrArg String.toList hempty
    exact hbytes (Utf8.eq_nil_of_decodeFrom (hnil ▸ htext)).2
  · cases h

/-- No segment of a resource URL is the empty name. -/
theorem ne_empty_of_segments {url : Url} {names : List String} (h : segments url = .ok names) :
    ∀ name ∈ names, name ≠ "" := by
  refine forall_mem_of_mapM_eq_ok h fun segment hsegment name hname => ?_
  have hfilled := (List.mem_filter.1 hsegment).2
  exact ne_empty_of_decodeSegment (by simpa using hfilled) hname

/-- A language that is named but empty does not count. -/
theorem langOf_ne_empty (pairs : List (String × String)) : langOf pairs ≠ "" := by
  rw [langOf]
  split
  · rename_i pair hpair
    have hfound := List.find?_some hpair
    simp only [Bool.and_eq_true, bne_iff_ne] at hfound
    exact hfound.2
  · decide

theorem wellFormed_of_ofSegments {uri : String} {url : Url} {names : List String}
    {target : ResourceTarget} (hnames : ∀ name ∈ names, name ≠ "")
    (h : ofSegments uri url names = .ok target) : target.call.WellFormed := by
  unfold ofSegments at h
  split at h
  · split at h
    · cases h
      trivial
    · cases h
      trivial
    · cases h
      simp only [List.forall_mem_cons] at hnames
      exact ⟨hnames.1, hnames.2.1, langOf_ne_empty _⟩
    · cases h
  · split at h
    · cases h
      exact hnames _ List.mem_cons_self
    · cases h
  · cases h

/-- A URL that is resolved makes a well-formed call. -/
theorem wellFormed_of_resolve {uri : String} {target : ResourceTarget}
    (h : resolve uri = .ok target) : target.call.WellFormed := by
  rw [resolve] at h
  split at h
  · cases h
  · split at h
    · cases h
    · rename_i hsegments
      exact wellFormed_of_ofSegments (ne_empty_of_segments hsegments) h

end ResourceTarget

/-! ## Requests -/

theorem wellFormed_of_toolQuestion {name : String} {arguments : Arguments}
    {question : Question Json} (h : toolQuestion name arguments = .ok question) :
    question.call.WellFormed := by
  rw [toolQuestion] at h
  split at h
  · cases h
  · rename_i hdecode
    cases h
    exact ToolCall.wellFormed_of_decode hdecode

theorem wellFormed_of_resourceQuestion {uri : String} {question : Question Json}
    (h : resourceQuestion uri = .ok question) : question.call.WellFormed := by
  rw [resourceQuestion] at h
  split at h
  · cases h
  · rename_i hresolve
    cases h
    exact ResourceTarget.wellFormed_of_resolve hresolve

/-- Every call that a request plans is well formed. -/
theorem RpcRequest.wellFormed_of_plannedCall? {request : RpcRequest} {call : Call}
    (h : request.plannedCall? = some call) : call.WellFormed := by
  cases asks_of_plannedCall? h with
  | tool _ _ _ _ hdecode hmeans =>
    exact (ToolCall.means_iff _ _).1 hmeans ▸ ToolCall.wellFormed_of_decode hdecode
  | resource _ _ _ hresolve hmeans =>
    exact (ResourceTarget.means_iff _ _).1 hmeans ▸ ResourceTarget.wellFormed_of_resolve hresolve

/-! ## Recorded calls -/

def Filled (calls : List Call) : Prop := ∀ call ∈ calls, call.WellFormed

namespace Filled

variable {calls : List Call}

theorem nil : Filled [] := nofun

theorem append {more : List Call} (h : Filled calls) (hmore : Filled more) :
    Filled (calls ++ more) :=
  List.forall_mem_append.2 ⟨h, hmore⟩

theorem toList {call? : Option Call} (h : ∀ call, call? = some call → call.WellFormed) :
    Filled call?.toList :=
  fun call hcall => h call (Option.mem_toList.1 hcall)

variable (h : Filled calls) (transport : Transport σ) (world : σ)

include h

theorem handleRequest (request : RpcRequest) :
    Filled (handleRequest transport.recorded request (world, calls)).2.2 := by
  rw [handleRequest_recorded]
  exact h.append (.toList fun _ => RpcRequest.wellFormed_of_plannedCall?)

/-- Serving a stream adds well-formed calls only. -/
theorem serve (input : InputStream) (output : OutputStream) :
    Filled (serve transport.recorded input output (world, calls)).2.2.2 := by
  rw [serve_answers]
  simp only [answerRequests_recorded]
  refine h.append fun call hcall => ?_
  obtain ⟨request, -, hplanned⟩ := List.mem_filterMap.1 hcall
  exact RpcRequest.wellFormed_of_plannedCall? hplanned

theorem answerQuestion {question : Except BridgeError (Question Json)}
    (hquestion : ∀ asked, question = .ok asked → asked.call.WellFormed) :
    Filled (Http.answerQuestion transport.recorded question (world, calls)).2.2 := by
  cases question with
  | error reason => exact h
  | ok asked =>
    have hasked : Filled [asked.call] := List.forall_mem_singleton.2 (hquestion asked rfl)
    simp only [Http.answerQuestion, Question.ask, Transport.recorded_perform]
    cases (transport.perform asked.call world).1 <;> exact h.append hasked

theorem withBody {α : Type} [Json.Codec α] (request : Http.Request)
    {answer : α → σ × List Call → Http.Response × σ × List Call}
    (hanswer : ∀ value, Filled (answer value (world, calls)).2.2) :
    Filled (Http.withBody request answer (world, calls)).2.2 := by
  rw [Http.withBody]
  split
  · exact h
  · exact hanswer _

theorem answerRoute (request : Http.Request) (route : Http.Route) :
    Filled (Http.answerRoute transport.recorded request (world, calls) route).2.2 := by
  cases route with
  | health => exact h.append (List.forall_mem_singleton.2 trivial)
  | resources => exact h
  | tools => exact h
  | resourceRead =>
    exact h.withBody world request fun body =>
      h.answerQuestion transport world fun _ => wellFormed_of_resourceQuestion
  | toolCall =>
    exact h.withBody world request fun body =>
      h.answerQuestion transport world fun _ => wellFormed_of_toolQuestion
  | rpc => exact h.withBody world request fun rpc => h.handleRequest transport world rpc

/-- Answering a posted request adds well-formed calls only. -/
theorem answer (request : Http.Request) :
    Filled (Http.answer transport.recorded request (world, calls)).2.2 := by
  rw [Http.answer]
  split
  · exact h
  · split
    · exact h.answerRoute transport world request _
    · exact h

end Filled

/-- Whatever bytes are served, and whatever is posted, every call that is made is well-formed. -/
theorem calls_are_wellFormed (transport : Transport σ) (world : σ) :
    (∀ input output, ∀ call ∈ (serve transport.recorded input output (world, [])).2.2.2,
      call.WellFormed) ∧
    (∀ request, ∀ call ∈ (Http.answer transport.recorded request (world, [])).2.2,
      call.WellFormed) :=
  ⟨Filled.nil.serve transport world, Filled.nil.answer transport world⟩

/-- A request for a document by a URL with empty segments, dots and several languages. -/
def untidyReading : Http.Request where
  method := "POST"
  path := "/mcp/resources/read"
  contentType := some "application/json"
  body := utf8Bytes
    "\x7b\"uri\":\"mddb://guides//./draft/..//set%20up?lang=&lang=de&lang=en\"\x7d"

theorem addition_and_untidy_reading_are_wellFormed :
    (serve Memory.transport.recorded { bytes := additionLine } {} ({}, [])).2.2.2 =
        [.add { collection := "guides", key := "setup", lang := "en_US", metadata := ∅
                contentMd := "Unpack.", saveRevision := false }] ∧
      (∀ call ∈ (serve Memory.transport.recorded { bytes := additionLine } {} ({}, [])).2.2.2,
        call.WellFormed) ∧
      (Http.answer Memory.transport.recorded untidyReading ({}, [])).2.2 =
        [.get { collection := "guides", key := "set up", lang := "de" }] ∧
      ∀ call ∈ (Http.answer Memory.transport.recorded untidyReading ({}, [])).2.2,
        call.WellFormed := by
  obtain ⟨hserved, hanswered⟩ := calls_are_wellFormed Memory.transport {}
  exact ⟨by decide +kernel, hserved _ _, by decide +kernel, hanswered _⟩

end DocBridge
