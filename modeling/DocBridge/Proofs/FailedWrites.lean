import DocBridge.Proofs.ResponseStream

/-!
# Writes that fail

A writer may refuse writes and flushes.  Serving does not look at what becomes of a response, so it
makes the same calls and ends in the same world as with a writer that never fails.  What is written
is then what would have been written, without the lines that were refused; flushes that are refused
leave no trace.
-/

namespace DocBridge

open Json

variable {σ : Type}

/-! ## What is kept of the lines that are offered -/

namespace OutputStream

/-- The lines that a stream does not refuse when it is offered them one by one, the first of them as
its write of the given number. -/
def kept (stream : OutputStream) (first : Nat) (lines : List Bytes) : List Bytes :=
  ((lines.zipIdx first).filter fun line => !stream.refusesWrite line.2).map Prod.fst

example : ({ refusesWrite := (· == 4) } : OutputStream).kept 3 [[1], [2], [3]] = [[1], [3]] := rfl

theorem kept_cons (stream : OutputStream) (first : Nat) (line : Bytes) (rest : List Bytes) :
    stream.kept first (line :: rest) =
      if stream.refusesWrite first then stream.kept (first + 1) rest
      else line :: stream.kept (first + 1) rest := by
  cases hrefused : stream.refusesWrite first <;> simp [kept, List.zipIdx_cons, hrefused]

/-- A line that is not refused is written, whatever becomes of its flush. -/
theorem writeLine_snd (stream : OutputStream) (line : Bytes) (written : Written) :
    (stream.writeLine line written).2 =
      if stream.refusesWrite written.writes then { written with writes := written.writes + 1 }
      else
        { bytes := written.bytes ++ line
          writes := written.writes + 1
          flushes := written.flushes + 1 } := by
  rw [writeLine]
  split
  · rfl
  · split <;> rfl

/-- Every line counts as a write, and the lines that are kept are flushed. -/
theorem writeLines_eq (stream : OutputStream) (written : Written) (lines : List Bytes) :
    stream.writeLines written lines =
      { bytes := written.bytes ++ (stream.kept written.writes lines).flatten
        writes := written.writes + lines.length
        flushes := written.flushes + (stream.kept written.writes lines).length } := by
  induction lines generalizing written with
  | nil => simp [writeLines, kept]
  | cons line rest ih =>
    change stream.writeLines (stream.writeLine line written).2 rest = _
    rw [ih, writeLine_snd, kept_cons]
    split <;> simp [Nat.add_assoc, Nat.add_comm 1]

end OutputStream

/-! ## The lines of an output -/

/-- The lines that end within the given bytes, each with the newline that ends it. -/
def linesOf (bytes : Bytes) : List Bytes :=
  (splitAll (· == newline) bytes).dropLast.map (· ++ [newline])

/-- The lines of an output are the responses that were written to it, one each. -/
theorem linesOf_responses (responses : List RpcResponse) :
    linesOf (responses.flatMap responseLine) = responses.map responseLine := by
  let texts := responses.map fun response => Utf8.encode (encode response)
  have htexts : ∀ text ∈ texts, newline ∉ text := by
    intro text htext
    obtain ⟨response, -, rfl⟩ := List.mem_map.1 htext
    exact newline_not_mem_compact (toJson response)
  have hlines : texts.map (· ++ [newline]) = responses.map responseLine := by
    rw [List.map_map]
    rfl
  have hbytes : responses.flatMap responseLine = texts.flatMap (· ++ [newline]) := by
    rw [List.flatMap_def, List.flatMap_def, hlines]
  rw [linesOf, hbytes, splitAll_newline_flatMap htexts, List.dropLast_concat, hlines]

/-! ## Sessions -/

/-- What the writer refuses is missing from the output, and nothing else changes. -/
theorem sessionOn_eq (transport : Transport σ) (input : InputStream) (output : OutputStream)
    (world : σ) :
    sessionOn transport input output world =
      { session transport input world with
        output := (output.kept 0
          ((answerRequests transport input.requests world).1.map responseLine)).flatten } := by
  simp [session_eq, sessionOn_answers, OutputStream.writeLines_eq]

/-- Failed writes lose only their own lines.  Whichever writes and flushes are refused, the calls,
the way serving ends and what is left of the world are those of a writer that never fails, and of
its lines exactly those are missing whose writes were refused.  Each line is offered once, and is
flushed if it was written. -/
theorem refused_writes_lose_their_lines (transport : Transport σ) (input : InputStream)
    (output : OutputStream) (world : σ) :
    let faultless := session transport input world
    let lines := linesOf faultless.output
    lines.flatten = faultless.output ∧
    sessionOn transport input output world =
      { faultless with output := (output.kept 0 lines).flatten } ∧
    (serve transport input output world).1.writes = lines.length ∧
    (serve transport input output world).1.flushes = (output.kept 0 lines).length := by
  intro faultless lines
  have hlines : lines = (answerRequests transport input.requests world).1.map responseLine := by
    change linesOf (session transport input world).output = _
    rw [session_eq]
    exact linesOf_responses _
  refine ⟨?_, ?_, ?_, ?_⟩
  · rw [hlines, ← List.flatMap_def]
    change _ = (session transport input world).output
    rw [session_eq]
  · rw [sessionOn_eq, hlines]
  · simp [serve_answers, OutputStream.writeLines_eq, hlines]
  · simp [serve_answers, OutputStream.writeLines_eq, hlines]

end DocBridge
