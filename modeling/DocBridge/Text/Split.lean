/-!
# Splitting

Cutting a list at a separator.
-/

namespace DocBridge

variable {α : Type}

/-- The pieces between the separators, of which there is one more than there are separators. -/
def splitAll (isSeparator : α → Bool) : List α → List (List α)
  | [] => [[]]
  | item :: rest =>
    if isSeparator item then [] :: splitAll isSeparator rest
    else
      match splitAll isSeparator rest with
      | [] => [[item]]
      | piece :: pieces => (item :: piece) :: pieces

theorem splitAll_ne_nil (isSeparator : α → Bool) (items : List α) :
    splitAll isSeparator items ≠ [] := by
  cases items with
  | nil => simp [splitAll]
  | cons item rest =>
    simp only [splitAll]
    split
    · simp
    · split <;> simp

/-- The pieces on both sides of a separator are cut independently of each other. -/
theorem splitAll_append_cons {isSeparator : α → Bool} {separator : α}
    (h : isSeparator separator = true) (before after : List α) :
    splitAll isSeparator (before ++ separator :: after) =
      splitAll isSeparator before ++ splitAll isSeparator after := by
  induction before with
  | nil => simp [splitAll, h]
  | cons item rest ih =>
    simp only [List.cons_append, splitAll, ih]
    split
    · rfl
    · cases hpieces : splitAll isSeparator rest with
      | nil => exact absurd hpieces (splitAll_ne_nil isSeparator rest)
      | cons piece pieces => rfl

theorem splitAll_of_forall_not {isSeparator : α → Bool} {items : List α}
    (h : ∀ item ∈ items, isSeparator item = false) : splitAll isSeparator items = [items] := by
  induction items with
  | nil => rfl
  | cons item rest ih =>
    have hitem := h item List.mem_cons_self
    have hrest := ih fun other hother => h other (List.mem_cons_of_mem item hother)
    simp [splitAll, hitem, hrest]

/-- No piece has a separator in it. -/
theorem forall_not_of_mem_splitAll {isSeparator : α → Bool} {items piece : List α}
    (h : piece ∈ splitAll isSeparator items) : ∀ item ∈ piece, isSeparator item = false := by
  induction items generalizing piece with
  | nil =>
    obtain rfl := List.mem_singleton.1 h
    exact nofun
  | cons item rest ih =>
    rw [splitAll] at h
    split at h
    · obtain rfl | hrest := List.mem_cons.1 h
      · exact nofun
      · exact ih hrest
    · rename_i hitem
      have hitem : isSeparator item = false := eq_false_of_ne_true hitem
      cases hpieces : splitAll isSeparator rest with
      | nil => exact absurd hpieces (splitAll_ne_nil isSeparator rest)
      | cons first pieces =>
        rw [hpieces] at h ih
        obtain rfl | hrest := List.mem_cons.1 h
        · exact List.forall_mem_cons.2 ⟨hitem, ih List.mem_cons_self⟩
        · exact ih (.tail first hrest)

/-- What stands before the first separator, and what stands behind it if there is one. -/
def splitFirst (isSeparator : α → Bool) : List α → List α × Option (List α)
  | [] => ([], none)
  | item :: rest =>
    if isSeparator item then ([], some rest)
    else
      let (before, behind) := splitFirst isSeparator rest
      (item :: before, behind)

theorem splitFirst_append_cons {isSeparator : α → Bool} {separator : α} {before after : List α}
    (h : isSeparator separator = true) (hbefore : ∀ item ∈ before, isSeparator item = false) :
    splitFirst isSeparator (before ++ separator :: after) = (before, some after) := by
  induction before with
  | nil => simp [splitFirst, h]
  | cons item rest ih =>
    have hitem := hbefore item List.mem_cons_self
    have hrest := ih fun other hother => hbefore other (List.mem_cons_of_mem item hother)
    simp [splitFirst, hitem, hrest]

theorem splitFirst_of_forall_not {isSeparator : α → Bool} {items : List α}
    (h : ∀ item ∈ items, isSeparator item = false) :
    splitFirst isSeparator items = (items, none) := by
  induction items with
  | nil => rfl
  | cons item rest ih =>
    have hitem := h item List.mem_cons_self
    have hrest := ih fun other hother => h other (List.mem_cons_of_mem item hother)
    simp [splitFirst, hitem, hrest]

theorem splitFirst_eq_some_iff {isSeparator : α → Bool} {items before after : List α} :
    splitFirst isSeparator items = (before, some after) ↔
      ∃ separator, isSeparator separator = true ∧ items = before ++ separator :: after ∧
        ∀ item ∈ before, isSeparator item = false := by
  constructor
  · intro h
    induction items generalizing before with
    | nil => cases h
    | cons item rest ih =>
      rw [splitFirst] at h
      split at h
      · rename_i hitem
        cases h
        exact ⟨item, hitem, rfl, nofun⟩
      · rename_i hitem
        cases hrest : splitFirst isSeparator rest with
        | mk first behind =>
          rw [hrest] at h
          cases h
          obtain ⟨separator, hseparator, rfl, hfirst⟩ := ih hrest
          have hitem : isSeparator item = false := eq_false_of_ne_true hitem
          exact ⟨separator, hseparator, rfl, List.forall_mem_cons.2 ⟨hitem, hfirst⟩⟩
  · rintro ⟨separator, hseparator, rfl, hbefore⟩
    exact splitFirst_append_cons hseparator hbefore

theorem splitFirst_eq_none_iff {isSeparator : α → Bool} {items before : List α} :
    splitFirst isSeparator items = (before, none) ↔
      before = items ∧ ∀ item ∈ items, isSeparator item = false := by
  constructor
  · intro h
    induction items generalizing before with
    | nil =>
      cases h
      exact ⟨rfl, nofun⟩
    | cons item rest ih =>
      rw [splitFirst] at h
      split at h
      · cases h
      · rename_i hitem
        cases hrest : splitFirst isSeparator rest with
        | mk first behind =>
          rw [hrest] at h
          cases h
          obtain ⟨rfl, hrest⟩ := ih hrest
          have hitem : isSeparator item = false := eq_false_of_ne_true hitem
          exact ⟨rfl, List.forall_mem_cons.2 ⟨hitem, hrest⟩⟩
  · rintro ⟨rfl, hitems⟩
    exact splitFirst_of_forall_not hitems

theorem mem_of_mem_splitFirst {isSeparator : α → Bool} {items : List α} {item : α}
    (h : item ∈ (splitFirst isSeparator items).1) : item ∈ items := by
  cases hsplit : splitFirst isSeparator items with
  | mk before behind =>
    rw [hsplit] at h
    cases behind with
    | none => exact (splitFirst_eq_none_iff.1 hsplit).1 ▸ h
    | some after =>
      obtain ⟨separator, -, rfl, -⟩ := splitFirst_eq_some_iff.1 hsplit
      exact List.mem_append_left _ h

/-- What stands before the last separator, if there is one, and what stands behind it. -/
def splitLast (isSeparator : α → Bool) (items : List α) : Option (List α) × List α :=
  match splitFirst isSeparator items.reverse with
  | (behind, before) => (before.map List.reverse, behind.reverse)

theorem splitLast_of_forall_not {isSeparator : α → Bool} {items : List α}
    (h : ∀ item ∈ items, isSeparator item = false) :
    splitLast isSeparator items = (none, items) := by
  have hreverse : ∀ item ∈ items.reverse, isSeparator item = false :=
    fun item hitem => h item (List.mem_reverse.1 hitem)
  rw [splitLast, splitFirst_of_forall_not hreverse]
  simp

theorem mem_of_mem_splitLast {isSeparator : α → Bool} {items : List α} {item : α}
    (h : item ∈ (splitLast isSeparator items).2) : item ∈ items := by
  rw [splitLast] at h
  exact List.mem_reverse.1 (mem_of_mem_splitFirst (List.mem_reverse.1 h))

/-- The list without the items at both ends that a test accepts. -/
def trim (isBlank : α → Bool) (items : List α) : List α :=
  ((items.dropWhile isBlank).reverse.dropWhile isBlank).reverse

/-- Where nothing is blank nothing is cut off. -/
theorem trim_of_forall_not {isBlank : α → Bool} {items : List α}
    (h : ∀ item ∈ items, isBlank item = false) : trim isBlank items = items := by
  have hkept : ∀ items : List α, (∀ item ∈ items, isBlank item = false) →
      items.dropWhile isBlank = items := by
    intro items hitems
    cases items with
    | nil => rfl
    | cons item rest => simp [hitems item List.mem_cons_self]
  have hreverse : ∀ item ∈ items.reverse, isBlank item = false :=
    fun item hitem => h item (List.mem_reverse.1 hitem)
  rw [trim, hkept items h, hkept items.reverse hreverse, List.reverse_reverse]

/-- What is cut off at the end is blank. -/
theorem exists_dropWhile_eq_trim_append (isBlank : α → Bool) (items : List α) :
    ∃ tail, (∀ item ∈ tail, isBlank item = true) ∧
      items.dropWhile isBlank = trim isBlank items ++ tail := by
  refine ⟨((items.dropWhile isBlank).reverse.takeWhile isBlank).reverse, ?_, ?_⟩
  · intro item hitem
    exact List.all_eq_true.1 List.all_takeWhile item (List.mem_reverse.1 hitem)
  · rw [trim, ← List.reverse_append, List.takeWhile_append_dropWhile, List.reverse_reverse]

/-- Only the beginning is cut off if the last item is not blank. -/
theorem trim_eq_dropWhile {isBlank : α → Bool} {items : List α}
    (h : ∀ last ∈ items.getLast?, isBlank last = false) :
    trim isBlank items = items.dropWhile isBlank := by
  obtain ⟨tail, htail, hdrop⟩ := exists_dropWhile_eq_trim_append isBlank items
  rcases List.eq_nil_or_concat tail with rfl | ⟨front, last, rfl⟩
  · rw [hdrop, List.append_nil]
  · have hlast : last ∈ items.getLast? := by
      rw [← List.takeWhile_append_dropWhile (p := isBlank) (l := items), hdrop]
      simp
    cases (htail last (by simp)).symm.trans (h last hlast)

/-- A blank at the end does not count. -/
theorem trim_append_singleton {isBlank : α → Bool} {blank : α} (h : isBlank blank = true)
    (items : List α) : trim isBlank (items ++ [blank]) = trim isBlank items := by
  simp only [trim, List.dropWhile_append]
  split
  · rename_i hempty
    simp [List.isEmpty_iff.1 hempty, List.dropWhile_cons_of_pos h]
  · simp [List.dropWhile_cons_of_pos h]

end DocBridge
