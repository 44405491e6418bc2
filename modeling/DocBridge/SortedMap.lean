/-!
# Maps with string keys

A finite map is the list of its entries in strictly increasing key order, so that equal maps are
equal lists and every traversal has one order.  The main statements say what a lookup finds after
an insertion and after a map is built from a list, where the first of several equal keys counts.
-/

namespace DocBridge

/-- A finite map from strings. -/
structure SortedMap (β : Type) where
  entries : List (String × β)
  sorted : entries.Pairwise (fun first second => first.1 < second.1)

namespace SortedMap

variable {β : Type}

theorem ext_entries {first second : SortedMap β} (h : first.entries = second.entries) :
    first = second := by
  cases first
  cases second
  cases h
  rfl

instance [DecidableEq β] : DecidableEq (SortedMap β) := fun first second =>
  if h : first.entries = second.entries then isTrue (ext_entries h)
  else isFalse fun equal => h (equal ▸ rfl)

instance [Repr β] : Repr (SortedMap β) := ⟨fun map depth => reprPrec map.entries depth⟩

def empty : SortedMap β := ⟨[], .nil⟩

instance : EmptyCollection (SortedMap β) := ⟨empty⟩

instance : Inhabited (SortedMap β) := ⟨empty⟩

def isEmpty (map : SortedMap β) : Bool := map.entries.isEmpty

def size (map : SortedMap β) : Nat := map.entries.length

def get? (map : SortedMap β) (key : String) : Option β := map.entries.lookup key

/-- Places an entry into a list of entries in key order, in place of one with the same key. -/
def insertEntry (key : String) (value : β) : List (String × β) → List (String × β)
  | [] => [(key, value)]
  | entry :: rest =>
    if key < entry.1 then (key, value) :: entry :: rest
    else if entry.1 < key then entry :: insertEntry key value rest
    else (key, value) :: rest

theorem eq_of_not_lt {first second : String} (h : ¬ first < second) (h' : ¬ second < first) :
    first = second :=
  String.le_antisymm h' h

theorem mem_insertEntry {key : String} {value : β} {entry : String × β}
    {entries : List (String × β)} (h : entry ∈ insertEntry key value entries) :
    entry = (key, value) ∨ entry ∈ entries := by
  induction entries with
  | nil => simpa [insertEntry] using h
  | cons head rest ih =>
    simp only [insertEntry] at h
    split at h
    · simpa using h
    · split at h
      · rcases List.mem_cons.1 h with rfl | h
        · simp
        · rcases ih h with h | h <;> simp [h]
      · rcases List.mem_cons.1 h with rfl | h
        · simp
        · simp [h]

theorem insertEntry_sorted {key : String} {value : β} {entries : List (String × β)}
    (h : entries.Pairwise (fun first second => first.1 < second.1)) :
    (insertEntry key value entries).Pairwise (fun first second => first.1 < second.1) := by
  induction entries with
  | nil => simp [insertEntry]
  | cons head rest ih =>
    have hhead := List.pairwise_cons.1 h
    simp only [insertEntry]
    split
    · rename_i hlt
      refine List.pairwise_cons.2 ⟨fun entry hentry => ?_, h⟩
      rcases List.mem_cons.1 hentry with rfl | hentry
      · exact hlt
      · exact String.lt_trans hlt (hhead.1 entry hentry)
    · split
      · rename_i hlt
        refine List.pairwise_cons.2 ⟨fun entry hentry => ?_, ih hhead.2⟩
        rcases mem_insertEntry hentry with rfl | hentry
        · exact hlt
        · exact hhead.1 entry hentry
      · rename_i hbelow habove
        have hkey := eq_of_not_lt hbelow habove
        exact List.pairwise_cons.2 ⟨fun entry hentry => hkey ▸ hhead.1 entry hentry, hhead.2⟩

/-- The map with a value stored under a key, whatever was stored there before. -/
def insert (map : SortedMap β) (key : String) (value : β) : SortedMap β :=
  ⟨insertEntry key value map.entries, insertEntry_sorted map.sorted⟩

def erase (map : SortedMap β) (key : String) : SortedMap β :=
  ⟨map.entries.filter (·.1 != key), map.sorted.filter _⟩

/-- The entries that a test accepts. -/
def filter (map : SortedMap β) (keep : String → β → Bool) : SortedMap β :=
  ⟨map.entries.filter fun entry => keep entry.1 entry.2, map.sorted.filter _⟩

/-- The map that holds the first of the listed values for every listed key. -/
def ofList : List (String × β) → SortedMap β
  | [] => empty
  | (key, value) :: rest => (ofList rest).insert key value

def keys (map : SortedMap β) : List String := map.entries.map (·.1)

def values (map : SortedMap β) : List β := map.entries.map (·.2)

theorem lookup_cons_of_ne {key other : String} (h : key ≠ other) (value : β)
    (entries : List (String × β)) :
    ((other, value) :: entries).lookup key = entries.lookup key := by
  rw [List.lookup_cons, beq_eq_false_iff_ne.2 h]

theorem lookup_eq_none_iff_not_mem {entries : List (String × β)} {key : String} :
    entries.lookup key = none ↔ key ∉ entries.map Prod.fst := by
  rw [List.lookup_eq_none_iff, List.mem_map]
  constructor
  · rintro h ⟨entry, hmem, rfl⟩
    exact absurd rfl (bne_iff_ne.1 (h entry hmem))
  · intro h entry hmem
    exact bne_iff_ne.2 fun heq => h ⟨entry, hmem, heq.symm⟩

/-- A lookup finds what has been made of the value that it found before. -/
theorem lookup_map_entries {γ : Type} (f : String → β → γ) (entries : List (String × β))
    (key : String) :
    (entries.map fun entry => (entry.1, f entry.1 entry.2)).lookup key =
      (entries.lookup key).map (f key) := by
  induction entries with
  | nil => rfl
  | cons entry rest ih =>
    obtain ⟨name, stored⟩ := entry
    by_cases h : key = name
    · subst h
      rw [List.map_cons, List.lookup_cons_self, List.lookup_cons_self, Option.map_some]
    · rw [List.map_cons, lookup_cons_of_ne h, lookup_cons_of_ne h, ih]

theorem lookup_map_values {γ : Type} (f : β → γ) (entries : List (String × β)) (key : String) :
    (entries.map fun entry => (entry.1, f entry.2)).lookup key = (entries.lookup key).map f :=
  lookup_map_entries (fun _ => f) entries key

theorem lookup_insertEntry (key other : String) (value : β) (entries : List (String × β)) :
    (insertEntry key value entries).lookup other =
      if other = key then some value else entries.lookup other := by
  induction entries with
  | nil =>
    by_cases h : other = key
    · simp [insertEntry, h]
    · simp [insertEntry, lookup_cons_of_ne h, h]
  | cons head rest ih =>
    obtain ⟨name, stored⟩ := head
    simp only [insertEntry]
    split
    · simp only [List.lookup_cons]
      split <;> simp_all
    · split
      · rename_i hlt
        simp only [List.lookup_cons, ih]
        split
        · rename_i heq
          have : other = name := by simpa using heq
          subst this
          have : other ≠ key := fun h => String.lt_irrefl key (h ▸ hlt)
          simp [this]
        · rfl
      · rename_i hbelow habove
        have hkey := eq_of_not_lt hbelow habove
        subst hkey
        simp only [List.lookup_cons]
        split <;> simp_all

theorem get?_insert (map : SortedMap β) (key other : String) (value : β) :
    (map.insert key value).get? other = if other = key then some value else map.get? other :=
  lookup_insertEntry key other value map.entries

@[simp]
theorem get?_empty (key : String) : (empty : SortedMap β).get? key = none := rfl

theorem get?_ofList (entries : List (String × β)) (key : String) :
    (ofList entries).get? key = entries.lookup key := by
  induction entries with
  | nil => rfl
  | cons head rest ih =>
    obtain ⟨name, value⟩ := head
    by_cases h : key = name
    · simp [ofList, get?_insert, h]
    · simp [ofList, get?_insert, ih, lookup_cons_of_ne h, h]

/-! ## Entries and keys -/

@[simp]
theorem isEmpty_iff {map : SortedMap β} : map.isEmpty = true ↔ map = ∅ := by
  rw [isEmpty, List.isEmpty_iff]
  exact ⟨fun h => ext_entries h, fun h => h ▸ rfl⟩

theorem nodup_keys (map : SortedMap β) : map.keys.Nodup := by
  rw [keys, List.Nodup, List.pairwise_map]
  exact map.sorted.imp fun hlt => String.ne_of_lt hlt

/-- What a lookup finds is an entry. -/
theorem mem_of_lookup {entries : List (String × β)} {key : String} {value : β}
    (h : entries.lookup key = some value) : (key, value) ∈ entries := by
  obtain ⟨earlier, later, hentries, -⟩ := List.lookup_eq_some_iff.1 h
  rw [hentries]
  exact List.mem_append_right earlier List.mem_cons_self

/-- Where every key stands once, a lookup finds every entry. -/
theorem lookup_eq_some_iff_mem {entries : List (String × β)} (h : (entries.map Prod.fst).Nodup)
    {key : String} {value : β} : entries.lookup key = some value ↔ (key, value) ∈ entries := by
  induction entries with
  | nil => simp
  | cons entry rest ih =>
    obtain ⟨name, stored⟩ := entry
    obtain ⟨hname, hrest⟩ := List.nodup_cons.1 h
    by_cases hkey : key = name
    · subst hkey
      have hnot : (key, value) ∉ rest := fun hmem => hname (List.mem_map.2 ⟨_, hmem, rfl⟩)
      simp [hnot, eq_comm]
    · simp [lookup_cons_of_ne hkey, hkey, ih hrest]

/-- Where every key stands once, a lookup in a part of the entries finds what it finds among all, if
that is in the part. -/
theorem lookup_filter {entries : List (String × β)} (h : (entries.map Prod.fst).Nodup)
    (keep : String × β → Bool) (key : String) :
    (entries.filter keep).lookup key =
      (entries.lookup key).filter fun value => keep (key, value) := by
  have hkept : ((entries.filter keep).map Prod.fst).Nodup :=
    (List.filter_sublist.map Prod.fst).nodup h
  ext value
  rw [lookup_eq_some_iff_mem hkept, List.mem_filter, Option.filter_eq_some_iff,
    lookup_eq_some_iff_mem h]

theorem get?_eq_some_iff {map : SortedMap β} {key : String} {value : β} :
    map.get? key = some value ↔ (key, value) ∈ map.entries :=
  lookup_eq_some_iff_mem map.nodup_keys

theorem nodup_entries (map : SortedMap β) : map.entries.Nodup :=
  map.sorted.imp fun hlt hequal => String.ne_of_lt hlt (congrArg Prod.fst hequal)

/-- A map is what is looked up in it. -/
theorem ext_get? {first second : SortedMap β} (h : ∀ key, first.get? key = second.get? key) :
    first = second := by
  have hperm : first.entries.Perm second.entries := by
    rw [List.perm_ext_iff_of_nodup first.nodup_entries second.nodup_entries]
    rintro ⟨key, value⟩
    rw [← get?_eq_some_iff, ← get?_eq_some_iff, h]
  apply ext_entries
  apply hperm.eq_of_pairwise _ first.sorted second.sorted
  intro entry other _ _ hlt hgt
  exact absurd (String.lt_trans hlt hgt) (String.lt_irrefl _)

theorem insertEntry_of_forall_gt {key : String} {value : β} {entries : List (String × β)}
    (h : ∀ entry ∈ entries, key < entry.1) :
    insertEntry key value entries = (key, value) :: entries := by
  cases entries with
  | nil => rfl
  | cons entry rest => simp [insertEntry, h entry List.mem_cons_self]

theorem insertEntry_of_forall_lt {key : String} {value : β} {entries : List (String × β)}
    (h : ∀ entry ∈ entries, entry.1 < key) :
    insertEntry key value entries = entries ++ [(key, value)] := by
  induction entries with
  | nil => rfl
  | cons entry rest ih =>
    have hentry := h entry List.mem_cons_self
    have hnot : ¬ key < entry.1 := fun hlt => String.lt_irrefl _ (String.lt_trans hlt hentry)
    have hrest := ih fun other hother => h other (List.mem_cons_of_mem _ hother)
    simp [insertEntry, hnot, hentry, hrest]

/-- An entry of a new key is put to the others. -/
theorem perm_insertEntry {key : String} {entries : List (String × β)}
    (h : ∀ entry ∈ entries, entry.1 ≠ key) (value : β) :
    (insertEntry key value entries).Perm ((key, value) :: entries) := by
  induction entries with
  | nil => exact .refl _
  | cons entry rest ih =>
    have hrest := ih fun other hother => h other (List.mem_cons_of_mem _ hother)
    simp only [insertEntry]
    split
    · exact .refl _
    · split
      · exact (hrest.cons entry).trans (.swap (key, value) entry rest)
      · rename_i hbelow habove
        exact absurd (eq_of_not_lt hbelow habove).symm (h entry List.mem_cons_self)

/-- A map is built again from its entries. -/
theorem ofList_entries (map : SortedMap β) : ofList map.entries = map := by
  obtain ⟨entries, hsorted⟩ := map
  apply ext_entries
  induction entries with
  | nil => rfl
  | cons entry rest ih =>
    obtain ⟨hentry, hrest⟩ := List.pairwise_cons.1 hsorted
    change insertEntry entry.1 entry.2 (ofList rest).entries = entry :: rest
    rw [ih hrest]
    exact insertEntry_of_forall_gt hentry

/-- A map is built again from its entries in whatever order they come. -/
theorem ofList_of_perm {map : SortedMap β} {entries : List (String × β)}
    (h : entries.Perm map.entries) : ofList entries = map := by
  have hkeys : (entries.map Prod.fst).Nodup := (h.map Prod.fst).nodup_iff.2 map.nodup_keys
  apply ext_get?
  intro key
  ext value
  rw [get?_ofList, lookup_eq_some_iff_mem hkeys, h.mem_iff, get?_eq_some_iff]

/-- Entries in decreasing order come out the other way round. -/
theorem entries_ofList_of_decreasing {entries : List (String × β)}
    (h : entries.Pairwise fun first second => second.1 < first.1) :
    (ofList entries).entries = entries.reverse := by
  induction entries with
  | nil => rfl
  | cons entry rest ih =>
    obtain ⟨hentry, hrest⟩ := List.pairwise_cons.1 h
    change insertEntry entry.1 entry.2 (ofList rest).entries = (entry :: rest).reverse
    rw [ih hrest, List.reverse_cons]
    exact insertEntry_of_forall_lt fun other hother => hentry other (List.mem_reverse.1 hother)

theorem mem_insert {map : SortedMap β} {key : String} {value : β} {entry : String × β}
    (h : entry ∈ (map.insert key value).entries) : entry = (key, value) ∨ entry ∈ map.entries :=
  mem_insertEntry h

theorem mem_of_mem_ofList {entries : List (String × β)} {entry : String × β}
    (h : entry ∈ (ofList entries).entries) : entry ∈ entries := by
  induction entries with
  | nil => exact h
  | cons head rest ih =>
    rcases mem_insert h with rfl | hrest
    · exact List.mem_cons_self
    · exact List.mem_cons_of_mem head (ih hrest)

theorem mem_filter {map : SortedMap β} {keep : String → β → Bool} {entry : String × β} :
    entry ∈ (map.filter keep).entries ↔ entry ∈ map.entries ∧ keep entry.1 entry.2 = true :=
  List.mem_filter

theorem filter_filter (map : SortedMap β) (first second : String → β → Bool) :
    (map.filter first).filter second =
      map.filter fun key value => second key value && first key value :=
  ext_entries List.filter_filter

theorem filter_congr {map : SortedMap β} {first second : String → β → Bool}
    (h : ∀ entry ∈ map.entries, first entry.1 entry.2 = second entry.1 entry.2) :
    map.filter first = map.filter second :=
  ext_entries (List.filter_congr h)

/-- What is looked up among the entries whose keys a test accepts. -/
theorem get?_filter_keys (map : SortedMap β) (keep : String → Bool) (key : String) :
    (map.filter fun name _ => keep name).get? key = if keep key then map.get? key else none := by
  change (map.entries.filter fun entry => keep entry.1).lookup key =
    if keep key then map.entries.lookup key else none
  induction map.entries with
  | nil => simp
  | cons entry rest ih =>
    obtain ⟨name, stored⟩ := entry
    by_cases hkey : key = name
    · subst hkey
      cases hkeep : keep key with
      | true => simp [hkeep]
      | false =>
        rw [List.filter_cons_of_neg (by simp [hkeep]), ih, hkeep]
        rfl
    · have hkey' : (key == name) = false := by simpa using hkey
      cases hkeep : keep name <;> simp [List.lookup_cons, hkeep, hkey', ih]

theorem get?_erase (map : SortedMap β) (key other : String) :
    (map.erase key).get? other = if other = key then none else map.get? other := by
  refine (map.get?_filter_keys (· != key) other).trans ?_
  by_cases h : other = key <;> simp [h]

theorem erase_of_get?_eq_none {map : SortedMap β} {key : String} (h : map.get? key = none) :
    map.erase key = map := by
  refine ext_entries (List.filter_eq_self.2 fun entry hentry => ?_)
  have hfound := get?_eq_some_iff.2 hentry
  rw [bne_iff_ne]
  rintro rfl
  rw [h] at hfound
  cases hfound

end SortedMap

end DocBridge
