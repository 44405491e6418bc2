import DocBridge.Resource

/-!
# The pairs of a query by their names

A query is a list of pairs in any order, in which a name may stand more than once.  What it asks for
depends on nothing but the values of each name: of some names the first value counts, of the
language the first one that is not empty, and of the parts of a filter all of them.  So it does not
matter how pairs of different names are mixed, or what pairs of other names there are.  A request is
put together in one walk through the pairs.
-/

namespace DocBridge.ResourceTarget

/-! ## Values of a name -/

theorem behind?_eq_some_iff {start text rest : String} :
    behind? start text = some rest ↔ start ++ rest = text := by
  rw [behind?, ← String.toList_inj, String.toList_append]
  constructor
  · intro h
    split at h
    · rename_i hprefix
      obtain ⟨tail, htail⟩ := List.isPrefixOf_iff_prefix.1 hprefix
      obtain rfl := Option.some.inj h
      rw [String.toList_ofList, ← htail, List.drop_left]
    · cases h
  · intro h
    rw [if_pos (List.isPrefixOf_iff_prefix.2 ⟨_, h⟩), ← h, List.drop_left, String.ofList_toList]

theorem behind?_append (start text : String) : behind? start (start ++ text) = some text :=
  behind?_eq_some_iff.2 rfl

def valuesOf (name : String) (pairs : List (String × String)) : List String :=
  pairs.filterMap fun pair => if pair.1 = name then some pair.2 else none

theorem valuesOf_cons (name : String) (pair : String × String) (rest : List (String × String)) :
    valuesOf name (pair :: rest) =
      (if pair.1 = name then [pair.2] else []) ++ valuesOf name rest := by
  rw [valuesOf, List.filterMap_cons]
  by_cases h : pair.1 = name
  · simp only [if_pos h]
    rfl
  · simp only [if_neg h]
    rfl

/-- The values of a name are those of its pairs. -/
theorem valuesOf_filter (name : String) (pairs : List (String × String)) :
    valuesOf name (pairs.filter fun pair => pair.1 == name) = valuesOf name pairs := by
  rw [valuesOf, List.filterMap_filter]
  congr
  funext pair
  simp

section Walks

variable {σ β : Type} {step : σ → String × String → σ} {name : String}

/-- What the first pair of a name sets and no other changes is set by the first pair of the name, if
it has not been set before. -/
theorem foldl_of_first (get : σ → Option β) (read : String → β)
    (hstep : ∀ state pair, get (step state pair) =
      (get state).or (if pair.1 = name then some (read pair.2) else none))
    (pairs : List (String × String)) (state : σ) :
    get (pairs.foldl step state) = (get state).or ((valuesOf name pairs).head?.map read) := by
  induction pairs generalizing state with
  | nil => exact Option.or_none.symm
  | cons pair rest ih =>
    rw [List.foldl_cons, ih, hstep, Option.or_assoc, valuesOf_cons]
    split <;> rfl

/-- What every pair of a name adds to is what there was before and all values of the name. -/
theorem foldl_of_all (get : σ → List String)
    (hstep : ∀ state pair, get (step state pair) =
      get state ++ if pair.1 = name then [pair.2] else [])
    (pairs : List (String × String)) (state : σ) :
    get (pairs.foldl step state) = get state ++ valuesOf name pairs := by
  induction pairs generalizing state with
  | nil => exact (List.append_nil _).symm
  | cons pair rest ih => rw [List.foldl_cons, ih, hstep, List.append_assoc, valuesOf_cons]

end Walks

theorem first?_eq_head? (pairs : List (String × String)) (name : String) :
    first? pairs name = (valuesOf name pairs).head? := by
  induction pairs with
  | nil => rfl
  | cons pair rest ih =>
    obtain ⟨other, value⟩ := pair
    rw [valuesOf_cons]
    by_cases h : other = name
    · subst h
      rw [first?, List.lookup_cons_self, if_pos rfl]
      rfl
    · rw [first?, SortedMap.lookup_cons_of_ne (Ne.symm h), if_neg h]
      exact ih

/-! ## Documents -/

/-- What is known of a document after some pairs of a query. -/
structure DocumentReading where
  lang : String := ""
  env : SortedMap String := ∅

namespace DocumentReading

/-- Takes a pair: a language as long as there is none that is not empty, or the first value of a
placeholder. -/
def take (reading : DocumentReading) (pair : String × String) : DocumentReading :=
  if pair.1 = "lang" ∧ reading.lang = "" then { reading with lang := pair.2 }
  else
    match behind? "env." pair.1 with
    | some name =>
      if (reading.env.get? name).isSome then reading
      else { reading with env := reading.env.insert name pair.2 }
    | none => reading

def request (reading : DocumentReading) (collection key : String) : GetRequest where
  collection := collection
  key := key
  lang := if reading.lang = "" then defaultLang else reading.lang
  env := reading.env

theorem get?_env_take (reading : DocumentReading) (pair : String × String) (name : String) :
    (reading.take pair).env.get? name =
      (reading.env.get? name).or (if pair.1 = "env." ++ name then some pair.2 else none) := by
  simp only [eq_comm (a := pair.1), ← behind?_eq_some_iff]
  unfold take
  split
  · rename_i hlang
    have hnone : behind? "env." "lang" = none := by decide
    simp [hlang.1, hnone]
  · split
    · rename_i other hother
      simp only [hother, Option.some.injEq]
      split
      · rename_i hfound
        obtain ⟨value, hvalue⟩ := Option.isSome_iff_exists.1 hfound
        split
        · rename_i hname
          rw [← hname, hvalue, Option.some_or]
        · rw [Option.or_none]
      · rename_i hfresh
        rw [SortedMap.get?_insert]
        by_cases hname : name = other
        · subst hname
          rw [if_pos rfl, if_pos rfl, Option.not_isSome_iff_eq_none.1 hfresh, Option.none_or]
        · rw [if_neg hname, if_neg (Ne.symm hname), Option.or_none]
    · rename_i hother
      simp [hother]

theorem lang_take (reading : DocumentReading) (pair : String × String) :
    (reading.take pair).lang =
      if pair.1 = "lang" ∧ reading.lang = "" then pair.2 else reading.lang := by
  unfold take
  split
  · rfl
  · split
    · split <;> rfl
    · rfl

/-- The language is the first one that is not empty, counted from the one that there is. -/
theorem lang_foldl_take (pairs : List (String × String)) (reading : DocumentReading) :
    (pairs.foldl take reading).lang =
      ((reading.lang :: valuesOf "lang" pairs).find? (· ≠ "")).getD "" := by
  induction pairs generalizing reading with
  | nil => by_cases h : reading.lang = "" <;> simp [valuesOf, h]
  | cons pair rest ih =>
    rw [List.foldl_cons, ih, lang_take, valuesOf_cons]
    by_cases hname : pair.1 = "lang" <;> by_cases hlang : reading.lang = "" <;>
      simp [hname, hlang]

theorem get?_env_foldl_take (pairs : List (String × String)) (reading : DocumentReading)
    (name : String) : (pairs.foldl take reading).env.get? name =
      (reading.env.get? name).or (valuesOf ("env." ++ name) pairs).head? :=
  (foldl_of_first (fun reading : DocumentReading => reading.env.get? name) id
    (fun reading pair => reading.get?_env_take pair name) pairs reading).trans
      (by rw [Option.map_id, id])

end DocumentReading

/-- The language is the first one that is filled, or else the default. -/
theorem langOf_eq (pairs : List (String × String)) :
    langOf pairs = ((valuesOf "lang" pairs).find? (· ≠ "")).getD defaultLang := by
  induction pairs with
  | nil => rfl
  | cons pair rest ih =>
    rw [langOf] at ih ⊢
    rw [valuesOf_cons]
    by_cases hfound : pair.1 = "lang" ∧ pair.2 ≠ ""
    · rw [List.find?_cons_of_pos (by simpa using hfound), if_pos hfound.1, List.singleton_append,
        List.find?_cons_of_pos (by simpa using hfound.2)]
      rfl
    · rw [List.find?_cons_of_neg (by simpa using hfound), ih]
      by_cases hname : pair.1 = "lang"
      · have hempty : pair.2 = "" := by simpa [hname] using hfound
        rw [if_pos hname, List.singleton_append, List.find?_cons_of_neg (by simp [hempty])]
      · rw [if_neg hname, List.nil_append]

/-- A placeholder has the first value that is given for it. -/
theorem get?_envOf (pairs : List (String × String)) (name : String) :
    (envOf pairs).get? name = (valuesOf ("env." ++ name) pairs).head? := by
  rw [envOf, SortedMap.get?_ofList]
  induction pairs with
  | nil => rfl
  | cons pair rest ih =>
    rw [valuesOf_cons]
    simp only [eq_comm (a := pair.1), ← behind?_eq_some_iff]
    cases hother : behind? "env." pair.1 with
    | none =>
      rw [List.filterMap_cons_none (by rw [hother]; rfl), ih, if_neg nofun, List.nil_append]
    | some other =>
      rw [List.filterMap_cons_some (by rw [hother]; rfl)]
      by_cases hname : other = name
      · subst hname
        rw [List.lookup_cons_self, if_pos rfl]
        rfl
      · rw [SortedMap.lookup_cons_of_ne (Ne.symm hname), ih,
          if_neg fun hsame => hname (Option.some.inj hsame), List.nil_append]

/-- The request for a document is what is known after a walk through all pairs. -/
theorem documentRequest_eq_foldl (collection key : String) (pairs : List (String × String)) :
    documentRequest collection key pairs =
      (pairs.foldl DocumentReading.take {}).request collection key := by
  have henv : envOf pairs = (pairs.foldl DocumentReading.take {}).env :=
    SortedMap.ext_get? fun name =>
      (get?_envOf pairs name).trans (DocumentReading.get?_env_foldl_take pairs {} name).symm
  have hlang : langOf pairs = if (pairs.foldl DocumentReading.take {}).lang = "" then defaultLang
      else (pairs.foldl DocumentReading.take {}).lang := by
    rw [DocumentReading.lang_foldl_take, langOf_eq, List.find?_cons_of_neg (by simp)]
    cases hfound : (valuesOf "lang" pairs).find? (· ≠ "") with
    | none => rfl
    | some lang =>
      have hfilled : lang ≠ "" := by simpa using List.find?_some hfound
      rw [Option.getD_some, Option.getD_some, if_neg hfilled]
  rw [documentRequest, DocumentReading.request, henv, hlang]

/-! ## Searches -/

def listed (filter : Meta) (name : String) : List String := (filter.get? name).getD []

theorem listed_appendValue (filter : Meta) (name other value : String) :
    listed (appendValue filter name value) other =
      listed filter other ++ (if name = other then [value] else []) := by
  rw [listed, appendValue, SortedMap.get?_insert]
  by_cases h : name = other
  · rw [if_pos h.symm, if_pos h, ← h]
    rfl
  · rw [if_neg (Ne.symm h), if_neg h, List.append_nil]
    rfl

def addPair (filter : Meta) (pair : String × String) : Meta :=
  match behind? "meta." pair.1 with
  | some name => appendValue filter name pair.2
  | none => filter

theorem listed_addPair (filter : Meta) (pair : String × String) (name : String) :
    listed (addPair filter pair) name =
      listed filter name ++ if pair.1 = "meta." ++ name then [pair.2] else [] := by
  simp only [eq_comm (a := pair.1), ← behind?_eq_some_iff]
  rw [addPair]
  split
  · rename_i other hother
    simp only [listed_appendValue, hother, Option.some.injEq]
  · rename_i hother
    rw [hother, if_neg nofun, List.append_nil]

/-- A filter collects all values of a name, in their order. -/
theorem listed_filterOf (pairs : List (String × String)) (name : String) :
    listed (filterOf pairs) name = valuesOf ("meta." ++ name) pairs :=
  foldl_of_all (listed · name) (listed_addPair · · name) pairs ∅

theorem addPair_ne_nil {filter : Meta} (h : ∀ name, filter.get? name ≠ some [])
    (pair : String × String) (name : String) : (addPair filter pair).get? name ≠ some [] := by
  unfold addPair
  split
  · rw [appendValue, SortedMap.get?_insert]
    split
    · simp
    · exact h name
  · exact h name

theorem foldl_addPair_ne_nil (pairs : List (String × String)) {filter : Meta}
    (h : ∀ name, filter.get? name ≠ some []) (name : String) :
    (pairs.foldl addPair filter).get? name ≠ some [] := by
  induction pairs generalizing filter with
  | nil => exact h name
  | cons pair rest ih => exact ih (addPair_ne_nil h pair)

theorem filterOf_ne_nil (pairs : List (String × String)) (name : String) :
    (filterOf pairs).get? name ≠ some [] := by
  have hempty (name : String) : (∅ : Meta).get? name ≠ some [] := fun h => nomatch h
  exact foldl_addPair_ne_nil pairs hempty name

/-- A filter knows the names of its pairs and no others. -/
theorem get?_filterOf (pairs : List (String × String)) (name : String) :
    (filterOf pairs).get? name = if valuesOf ("meta." ++ name) pairs = [] then none
      else some (valuesOf ("meta." ++ name) pairs) := by
  have hfilled : (filterOf pairs).get? name ≠ some [] := filterOf_ne_nil pairs name
  rw [← listed_filterOf, listed]
  cases hfound : (filterOf pairs).get? name with
  | none => rfl
  | some values =>
    have hvalues : values ≠ [] := fun h => hfilled (h ▸ hfound)
    rw [Option.getD_some, if_neg hvalues]

structure SearchReading where
  filterMeta : Meta := ∅
  sort : Option String := none
  asc : Option Bool := none
  limit : Option Int32 := none
  offset : Option Int32 := none

namespace SearchReading

/-- Takes a pair: one more value of the filter, or what a setting is if it is not known yet. -/
def take (reading : SearchReading) (pair : String × String) : SearchReading :=
  match behind? "meta." pair.1 with
  | some name => { reading with filterMeta := appendValue reading.filterMeta name pair.2 }
  | none =>
    match pair.1 with
    | "sort" => { reading with sort := reading.sort.or (some pair.2) }
    | "asc" => { reading with asc := reading.asc.or (some (pair.2 == "true")) }
    | "limit" => { reading with limit := reading.limit.or (some ((parseInt32? pair.2).getD 0)) }
    | "offset" => { reading with offset := reading.offset.or (some ((parseInt32? pair.2).getD 0)) }
    | _ => reading

def request (reading : SearchReading) (collection : String) : SearchRequest where
  collection := collection
  filterMeta := reading.filterMeta
  sort := reading.sort.getD ""
  asc := reading.asc.getD false
  limit := reading.limit.getD 0
  offset := reading.offset.getD 0

theorem filterMeta_take (reading : SearchReading) (pair : String × String) :
    (reading.take pair).filterMeta = addPair reading.filterMeta pair := by
  unfold take addPair
  split
  · rfl
  · split <;> rfl

theorem filterMeta_foldl_take (pairs : List (String × String)) (reading : SearchReading) :
    (pairs.foldl take reading).filterMeta = pairs.foldl addPair reading.filterMeta :=
  (List.foldl_hom SearchReading.filterMeta fun reading pair =>
    (reading.filterMeta_take pair).symm).symm

/-- A setting is taken from a pair of its name if it is not known yet. -/
theorem settings_take (reading : SearchReading) (pair : String × String) :
    (reading.take pair).sort =
        reading.sort.or (if pair.1 = "sort" then some pair.2 else none) ∧
      (reading.take pair).asc =
        reading.asc.or (if pair.1 = "asc" then some (pair.2 == "true") else none) ∧
      (reading.take pair).limit =
        reading.limit.or (if pair.1 = "limit" then some ((parseInt32? pair.2).getD 0) else none) ∧
      (reading.take pair).offset =
        reading.offset.or
          (if pair.1 = "offset" then some ((parseInt32? pair.2).getD 0) else none) := by
  unfold take
  split
  · -- The name of a part of the filter is not that of a setting.
    rename_i part hpart
    have hname {name : String} (hnone : behind? "meta." name = none) : pair.1 ≠ name := by
      rintro rfl
      cases hnone.symm.trans hpart
    simp only [if_neg (hname (by decide : behind? "meta." "sort" = none)),
      if_neg (hname (by decide : behind? "meta." "asc" = none)),
      if_neg (hname (by decide : behind? "meta." "limit" = none)),
      if_neg (hname (by decide : behind? "meta." "offset" = none)), Option.or_none, and_self]
  · split <;> simp_all

end SearchReading

/-- A number is the first value of its name, and zero if that is missing or no number. -/
theorem numberOf_eq (pairs : List (String × String)) (name : String) :
    numberOf pairs name = ((valuesOf name pairs).head?.bind parseInt32?).getD 0 := by
  rw [numberOf, first?_eq_head?]

/-- The request for a search is what is known after a walk through all pairs. -/
theorem searchRequest_eq_foldl (collection : String) (pairs : List (String × String)) :
    searchRequest collection pairs =
      (pairs.foldl SearchReading.take {}).request collection := by
  have hsort := foldl_of_first SearchReading.sort id (fun reading pair =>
    (SearchReading.settings_take reading pair).1) pairs {}
  have hasc := foldl_of_first SearchReading.asc (· == "true") (fun reading pair =>
    (SearchReading.settings_take reading pair).2.1) pairs {}
  have hlimit := foldl_of_first SearchReading.limit (fun value => (parseInt32? value).getD 0)
    (fun reading pair => (SearchReading.settings_take reading pair).2.2.1) pairs {}
  have hoffset := foldl_of_first SearchReading.offset (fun value => (parseInt32? value).getD 0)
    (fun reading pair => (SearchReading.settings_take reading pair).2.2.2) pairs {}
  have hflag : ((first? pairs "asc").map (· == "true")).getD false =
      (first? pairs "asc" == some "true") := by
    cases first? pairs "asc" <;> rfl
  have hnumber (name : String) : ((first? pairs name).map fun value =>
      (parseInt32? value).getD 0).getD 0 = numberOf pairs name := by
    rw [numberOf]
    cases first? pairs name <;> rfl
  simp only [SearchReading.request, SearchReading.filterMeta_foldl_take, hsort, hasc, hlimit,
    hoffset, Option.none_or, Option.map_id, id, ← first?_eq_head?, hflag, hnumber]
  rfl

/-! ## Requests -/

/-- The names of the pairs that count in the query of a document. -/
def CountsForDocument (name : String) : Prop := name = "lang" ∨ ∃ part, name = "env." ++ part

/-- The names of the pairs that count in the query of a search. -/
def CountsForSearch (name : String) : Prop :=
  name ∈ ["sort", "asc", "limit", "offset"] ∨ ∃ part, name = "meta." ++ part

/-- Two queries that have the same pairs of each name that counts in the same order, however these
are mixed with pairs of other names that count, and whatever pairs there are of names that do not.
-/
def SamePairs (Counts : String → Prop) (first second : List (String × String)) : Prop :=
  ∀ name, Counts name →
    (first.filter fun pair => pair.1 == name) = second.filter fun pair => pair.1 == name

/-- It is enough to look at the names that stand in one of two queries. -/
theorem samePairs_of_forall_mem {Counts : String → Prop} {first second : List (String × String)}
    (h : ∀ name ∈ (first ++ second).map Prod.fst, Counts name →
      (first.filter fun pair => pair.1 == name) = second.filter fun pair => pair.1 == name) :
    SamePairs Counts first second := by
  intro name hname
  by_cases hmem : name ∈ (first ++ second).map Prod.fst
  · exact h name hmem hname
  · have hnone (pairs : List (String × String)) (hpairs : name ∉ pairs.map Prod.fst) :
        (pairs.filter fun pair => pair.1 == name) = [] := by
      rw [List.filter_eq_nil_iff]
      intro pair hpair heq
      exact hpairs (List.mem_map.2 ⟨pair, hpair, eq_of_beq heq⟩)
    rw [List.map_append, List.mem_append, not_or] at hmem
    rw [hnone first hmem.1, hnone second hmem.2]

theorem SamePairs.valuesOf_eq {Counts : String → Prop} {first second : List (String × String)}
    (h : SamePairs Counts first second) {name : String} (hname : Counts name) :
    valuesOf name first = valuesOf name second := by
  rw [← valuesOf_filter name first, h name hname, valuesOf_filter]

/-- The request for a document depends on the pairs that count for it alone. -/
theorem documentRequest_congr {first second : List (String × String)}
    (h : SamePairs CountsForDocument first second) (collection key : String) :
    documentRequest collection key first = documentRequest collection key second := by
  have henv : envOf first = envOf second := SortedMap.ext_get? fun name => by
    rw [get?_envOf, get?_envOf, h.valuesOf_eq (.inr ⟨name, rfl⟩)]
  have hlang : langOf first = langOf second := by
    rw [langOf_eq, langOf_eq, h.valuesOf_eq (.inl rfl)]
  rw [documentRequest, documentRequest, henv, hlang]

theorem searchRequest_congr {first second : List (String × String)}
    (h : SamePairs CountsForSearch first second) (collection : String) :
    searchRequest collection first = searchRequest collection second := by
  have hfilter : filterOf first = filterOf second := SortedMap.ext_get? fun name => by
    rw [get?_filterOf, get?_filterOf, h.valuesOf_eq (.inr ⟨name, rfl⟩)]
  have hfirst (name : String) (hname : name ∈ ["sort", "asc", "limit", "offset"]) :
      first? first name = first? second name := by
    rw [first?_eq_head?, first?_eq_head?, h.valuesOf_eq (.inl hname)]
  simp only [searchRequest, numberOf, hfilter, hfirst "sort" (by decide), hfirst "asc" (by decide),
    hfirst "limit" (by decide), hfirst "offset" (by decide)]

/-- What a query asks for, read in one walk through its pairs, is decided by the values of each name
alone.  So it stays the same if pairs of different names are mixed in another way, and if pairs are
added or removed whose names do not count. -/
theorem requests_resolve_by_name (collection key : String) (pairs : List (String × String)) :
    (documentRequest collection key pairs =
        (pairs.foldl DocumentReading.take {}).request collection key ∧
      (documentRequest collection key pairs).lang =
        ((valuesOf "lang" pairs).find? (· ≠ "")).getD "en_US" ∧
      (∀ name, (documentRequest collection key pairs).env.get? name =
        (valuesOf ("env." ++ name) pairs).head?) ∧
      ∀ others, SamePairs CountsForDocument others pairs →
        documentRequest collection key others = documentRequest collection key pairs) ∧
    (searchRequest collection pairs =
        (pairs.foldl SearchReading.take {}).request collection ∧
      (∀ name, (searchRequest collection pairs).filterMeta.get? name =
        if valuesOf ("meta." ++ name) pairs = [] then none
        else some (valuesOf ("meta." ++ name) pairs)) ∧
      (searchRequest collection pairs).sort = (valuesOf "sort" pairs).head?.getD "" ∧
      ((searchRequest collection pairs).asc = true ↔
        (valuesOf "asc" pairs).head? = some "true") ∧
      (searchRequest collection pairs).limit =
        ((valuesOf "limit" pairs).head?.bind parseInt32?).getD 0 ∧
      (searchRequest collection pairs).offset =
        ((valuesOf "offset" pairs).head?.bind parseInt32?).getD 0 ∧
      ∀ others, SamePairs CountsForSearch others pairs →
        searchRequest collection others = searchRequest collection pairs) := by
  refine ⟨⟨documentRequest_eq_foldl collection key pairs, langOf_eq pairs, get?_envOf pairs,
    fun others h => documentRequest_congr h collection key⟩,
    searchRequest_eq_foldl collection pairs, get?_filterOf pairs, ?_, ?_, numberOf_eq pairs "limit",
    numberOf_eq pairs "offset", fun others h => searchRequest_congr h collection⟩
  · rw [← first?_eq_head?]
    rfl
  · rw [← first?_eq_head?]
    exact beq_iff_eq

/-- A language without a text, and a placeholder that is given twice. -/
def documentPairs : List (String × String) :=
  [("env.site", "first"), ("lang", ""), ("env.site", "second"), ("lang", "pl_PL")]

/-- A number that cannot be read, and a part of the filter that is called like a setting. -/
def searchPairs : List (String × String) := [("limit", "many"), ("meta.limit", "7"), ("limit", "5")]

theorem mixed_pairs_resolve_alike :
    let mixed := [("lang", ""), ("page", "2"), ("lang", "pl_PL"), ("env.site", "first"),
      ("env.site", "second")]
    let filtered := [("meta.limit", "7"), ("page", "2"), ("limit", "many"), ("limit", "5")]
    SamePairs CountsForDocument mixed documentPairs ∧
    documentRequest "blog" "hello" mixed = documentRequest "blog" "hello" documentPairs ∧
    (documentRequest "blog" "hello" documentPairs).lang = "pl_PL" ∧
    (documentRequest "blog" "hello" documentPairs).env.get? "site" = some "first" ∧
    SamePairs CountsForSearch filtered searchPairs ∧
    searchRequest "blog" filtered = searchRequest "blog" searchPairs ∧
    (searchRequest "blog" searchPairs).limit = 0 ∧
    (searchRequest "blog" searchPairs).filterMeta.get? "limit" = some ["7"] := by
  intro mixed filtered
  have hpage {start : String} (h : behind? start "page" = none) (part : String) :
      "page" ≠ start ++ part := by
    intro heq
    cases h.symm.trans (behind?_eq_some_iff.2 heq.symm)
  have hmixed : SamePairs CountsForDocument mixed documentPairs := by
    apply samePairs_of_forall_mem
    have hother : behind? "env." "page" = none := by decide
    simp [mixed, documentPairs, CountsForDocument, hpage hother]
  have hfiltered : SamePairs CountsForSearch filtered searchPairs := by
    apply samePairs_of_forall_mem
    have hother : behind? "meta." "page" = none := by decide
    simp [filtered, searchPairs, CountsForSearch, hpage hother]
  obtain ⟨⟨-, hlang, henv, hdocument⟩, -⟩ := requests_resolve_by_name "blog" "hello" documentPairs
  obtain ⟨-, -, hfilter, -, -, hlimit, -, hsearch⟩ :=
    requests_resolve_by_name "blog" "hello" searchPairs
  exact ⟨hmixed, hdocument mixed hmixed, hlang, henv "site", hfiltered, hsearch filtered hfiltered,
    hlimit, hfilter "limit"⟩

end DocBridge.ResourceTarget
