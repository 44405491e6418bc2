import DocBridge.Transport.Memory

/-!
# Stores that never fail

A store at hand answers every call itself.  Every other way to reach a store is measured by it: the
outcomes have to be alike, and the store that is left has to be the same.
-/

namespace DocBridge

/-- Two outcomes that are alike: both are the same reply, or neither is a reply. -/
inductive Alike {α : Type} : Except TransportError α → Except TransportError α → Prop
  | served (reply : α) : Alike (.ok reply) (.ok reply)
  | failed (first second : TransportError) : Alike (.error first) (.error second)

namespace Alike

variable {α : Type} {first second third : Except TransportError α}

theorem refl (outcome : Except TransportError α) : Alike outcome outcome := by
  cases outcome with
  | ok reply => exact .served reply
  | error failure => exact .failed failure failure

theorem symm (h : Alike first second) : Alike second first := by
  cases h with
  | served reply => exact .served reply
  | failed first second => exact .failed second first

theorem trans (h : Alike first second) (h' : Alike second third) : Alike first third := by
  cases h with
  | served reply => exact h'
  | failed first second =>
    cases h' with
    | failed _ third => exact .failed first third

theorem ok_iff (h : Alike first second) (reply : α) : first = .ok reply ↔ second = .ok reply := by
  cases h with
  | served other => rfl
  | failed first second => simp

end Alike

/-- An export in one piece. -/
def ExportStream.joined (stream : ExportStream) : ExportStream :=
  { stream with chunks := [stream.chunks.flatten] }

/-- A reply in which it does not matter into which chunks an export was cut. -/
def Operation.joined (operation : Operation) (reply : operation.Reply) : operation.Reply :=
  match operation, reply with
  | .exportDocuments, stream => ExportStream.joined stream
  | _, reply => reply

namespace Store

/-- What a store answers to a call, and what it is afterwards. -/
def answer (call : Call) (store : Store) : call.Outcome × Store :=
  let (outcome, memory) := Memory.answer { store := store } call
  (outcome, memory.store)

/-- What a store is after a call. -/
def after (store : Store) (call : Call) : Store := (store.answer call).2

/-- What a store is after several calls. -/
def afterAll (store : Store) (calls : List Call) : Store := calls.foldl after store

/-- A call that comes to nothing leaves the store as it was. -/
theorem after_of_error {store : Store} {call : Call} {failure : TransportError}
    (h : (store.answer call).1 = .error failure) : store.after call = store := by
  unfold after
  unfold answer at h ⊢
  cases call with
  | get request => simp only [Memory.answer]; split <;> rfl
  | delete request =>
    simp only [Memory.answer] at h ⊢
    split
    · rename_i hfound
      rw [hfound] at h
      cases h
    · rfl
  | _ => cases h

end Store

namespace Memory

/-- What a store in memory answers depends on nothing but its documents. -/
theorem answer_eq (memory : Memory) (call : Call) :
    (memory.answer call).1 = (memory.store.answer call).1 ∧
      (memory.answer call).2.store = memory.store.after call := by
  unfold Store.after Store.answer
  cases call with
  | get request => simp only [answer]; split <;> exact ⟨rfl, rfl⟩
  | delete request => simp only [answer]; split <;> exact ⟨rfl, rfl⟩
  | _ => exact ⟨rfl, rfl⟩

theorem perform_of_healthy {memory : Memory} (h : memory.failing = false) (call : Call) :
    (memory.perform call).1 = (memory.store.answer call).1 ∧
      (memory.perform call).2.store = memory.store.after call := by
  have hperform : memory.perform call = { memory with calls := memory.calls + 1 }.answer call := by
    simp [perform, h]
  rw [hperform]
  exact answer_eq _ call

theorem failing_answer (memory : Memory) (call : Call) :
    (memory.answer call).2.failing = memory.failing := by
  cases call with
  | get request => simp only [answer]; split <;> rfl
  | delete request => simp only [answer]; split <;> rfl
  | _ => rfl

/-- No call mends or breaks a transport. -/
theorem failing_perform (memory : Memory) (call : Call) :
    (memory.perform call).2.failing = memory.failing := by
  simp only [perform]
  split
  · rfl
  · exact failing_answer _ call

theorem perform_of_failing {memory : Memory} (h : memory.failing = true) (call : Call) :
    (memory.perform call).1 = .error (.backend call.operation "injected failure") ∧
      (memory.perform call).2.store = memory.store := by
  simp [perform, h]

end Memory

end DocBridge
