/-!
# Outcomes of steps

What is known of the steps behind an outcome: the values they came to if it is a value, and the ways
they fail in if it is a failure.
-/

namespace DocBridge

variable {ε α β : Type} {outcome : Except ε α}

/-! ## Values -/

section Values

variable {value : β}

theorem bind_eq_ok_iff {next : α → Except ε β} :
    outcome >>= next = .ok value ↔ ∃ found, outcome = .ok found ∧ next found = .ok value := by
  cases outcome <;> simp [bind, Except.bind]

theorem map_eq_ok_iff {f : α → β} :
    outcome.map f = .ok value ↔ ∃ found, outcome = .ok found ∧ f found = value := by
  cases outcome <;> simp [Except.map]

theorem pure_eq_ok_iff {found : β} : (pure found : Except ε β) = .ok value ↔ found = value := by
  simp [pure, Except.pure]

end Values

/-- Two steps come to a value if each does, as long as what the first finds makes no difference to
whether the second does. -/
theorem exists_bind_iff {next : α → Except ε β} {P : Prop}
    (hnext : ∀ found, (∃ value, next found = .ok value) ↔ P) :
    (∃ value, outcome >>= next = .ok value) ↔ (∃ found, outcome = .ok found) ∧ P := by
  cases outcome with
  | error failure => simp [bind, Except.bind]
  | ok found => simpa [bind, Except.bind] using hnext found

theorem exists_map_iff {f : α → β} :
    (∃ value, f <$> outcome = .ok value) ↔ ∃ found, outcome = .ok found := by
  cases outcome <;> simp [Functor.map, Except.map]

/-- What holds of the value of every step holds of all values of a list of steps. -/
theorem forall_mem_of_mapM_eq_ok {f : α → Except ε β} {P : β → Prop} {values : List α}
    {results : List β} (h : values.mapM f = .ok results)
    (hf : ∀ value ∈ values, ∀ result, f value = .ok result → P result) :
    ∀ result ∈ results, P result := by
  induction values generalizing results with
  | nil =>
    cases h
    exact nofun
  | cons value rest ih =>
    simp only [List.mapM_cons, bind_eq_ok_iff, pure_eq_ok_iff] at h
    obtain ⟨first, hfirst, others, hothers, rfl⟩ := h
    have hrest := ih hothers fun value hvalue => hf value (List.mem_cons_of_mem _ hvalue)
    exact List.forall_mem_cons.2 ⟨hf value List.mem_cons_self first hfirst, hrest⟩

/-! ## Failures -/

/-- The first failure is the outcome. -/
theorem bind_eq_error_iff {next : α → Except ε β} {failure : ε} :
    outcome >>= next = .error failure ↔
      outcome = .error failure ∨ ∃ found, outcome = .ok found ∧ next found = .error failure := by
  cases outcome <;> simp [bind, Except.bind]

theorem map_eq_error_iff {f : α → β} {failure : ε} :
    outcome.map f = .error failure ↔ outcome = .error failure := by
  cases outcome <;> simp [Except.map]

/-- Outcomes that look the same are the same, or two values that look the same. -/
theorem eq_or_exists_ok_of_map_eq_map {first second : Except ε α} {f : α → β}
    (h : first.map f = second.map f) :
    first = second ∨ ∃ left right, first = .ok left ∧ second = .ok right ∧ f left = f right := by
  cases first <;> cases second <;> simp_all [Except.map]

/-- An outcome that fails, if it does, in one of the given ways. -/
def FailsOnly (ways : ε → Prop) (outcome : Except ε α) : Prop :=
  ∀ failure, outcome = .error failure → ways failure

namespace FailsOnly

variable {ways : ε → Prop}

theorem ok (value : α) : FailsOnly ways (.ok value) := nofun

theorem error {failure : ε} (h : ways failure) :
    FailsOnly ways (.error failure : Except ε α) := by
  rintro _ ⟨rfl⟩
  exact h

/-- Steps that fail in given ways only do so together. -/
theorem bind {f : α → Except ε β} (h : FailsOnly ways outcome)
    (hf : ∀ value, FailsOnly ways (f value)) : FailsOnly ways (outcome >>= f) := by
  cases outcome with
  | error failure => exact error (h failure rfl)
  | ok value => exact hf value

theorem map (h : FailsOnly ways outcome) (f : α → β) : FailsOnly ways (outcome.map f) := by
  cases outcome with
  | error failure => exact error (h failure rfl)
  | ok value => exact ok _

theorem mapM {f : α → Except ε β} (h : ∀ value, FailsOnly ways (f value))
    (values : List α) : FailsOnly ways (values.mapM f) := by
  induction values with
  | nil => exact ok []
  | cons value rest ih =>
    rw [List.mapM_cons]
    exact (h value).bind fun _ => ih.bind fun _ => ok _

theorem mono {others : ε → Prop} (h : FailsOnly ways outcome)
    (hways : ∀ failure, ways failure → others failure) : FailsOnly others outcome :=
  fun failure hfailure => hways failure (h failure hfailure)

end FailsOnly

end DocBridge
