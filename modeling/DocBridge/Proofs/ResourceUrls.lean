import DocBridge.Proofs.EncodedUrls
import DocBridge.Proofs.NumberTexts
import DocBridge.Proofs.QueryNames
import Mathlib.Data.List.Nodup

/-!
# Every document and every search has a URL

Encoded byte by byte, any collection, key, language and placeholder can be named in the URL of a
document, and any collection, filter and order in the URL of a search.  What such a URL is resolved
to is the request that it was put together from, in whatever order its query is written.
-/

/-! ## Integers -/

namespace DocBridge.Decimal

open Json.Outline.NumberPlace (isDecimal_of_mem_toDigits)

theorem toList_toString_int (n : Int) : (toString n).toList =
    (if n < 0 then ['-'] else []) ++ Nat.toDigits 10 n.natAbs := by
  cases n with
  | ofNat n =>
    have htext : toString (Int.ofNat n) = toString n := rfl
    have hsign : ¬ Int.ofNat n < 0 := Int.not_lt.2 (Int.natCast_nonneg n)
    rw [htext, if_neg hsign, Nat.toString_eq_ofList_toDigits, String.toList_ofList]
    rfl
  | negSucc n =>
    have htext : toString (Int.negSucc n) = "-" ++ toString (n + 1) := rfl
    rw [htext, if_pos (Int.negSucc_lt_zero n), Nat.toString_eq_ofList_toDigits,
      String.toList_append, String.toList_ofList, String.toList_ofList]
    rfl

theorem ofDigits_toDigits (n : Nat) : ofDigits (Nat.toDigits 10 n) = n := by
  have hstep : ∀ (digits : List Char) (value : Nat),
      digits.foldl (fun value digit => value * 10 + (digit.toNat - '0'.toNat)) value =
        Nat.ofDigitChars 10 digits value := by
    intro digits value
    rw [Nat.ofDigitChars]
    congr
    funext value digit
    rw [Nat.mul_comm]
  rw [ofDigits, hstep, Nat.ofDigitChars_ten_toDigits]

theorem ofSigned_toDigits {low high n : Int} (hlow : low ≤ n) (hhigh : n ≤ high) :
    ofSigned (decide (n < 0)) low high (Nat.toDigits 10 n.natAbs) = .ok n := by
  have htake : (Nat.toDigits 10 n.natAbs).takeWhile Digit.isDecimal = Nat.toDigits 10 n.natAbs :=
    List.takeWhile_eq_self_iff.2 fun _ => isDecimal_of_mem_toDigits
  have hvalue : (if decide (n < 0) = true then -(n.natAbs : Int) else n.natAbs) = n := by
    simp only [decide_eq_true_eq]
    split <;> omega
  have hfilled : (Nat.toDigits 10 n.natAbs).isEmpty = false :=
    List.isEmpty_eq_false_iff.2 Nat.toDigits_ne_nil
  simp only [ofSigned, htake, ofDigits_toDigits, hvalue, hfilled, Nat.lt_irrefl,
    Int.not_lt.2 hlow, Int.not_lt.2 hhigh, if_false, Bool.false_or, decide_false,
    Bool.false_eq_true]

/-- Whatever is in range is read back from its text. -/
theorem parse_toString {low high n : Int} (hlow : low ≤ n) (hhigh : n ≤ high) :
    parse low high (toString n).toList = .ok n := by
  have hread := ofSigned_toDigits hlow hhigh
  rw [toList_toString_int]
  by_cases hsign : n < 0
  · rw [if_pos hsign]
    change (if low < 0 then _ else _) = _
    rw [if_pos (Int.lt_of_le_of_lt hlow hsign), ← hread, decide_eq_true hsign]
    rfl
  · obtain ⟨first, rest, hdigits⟩ :=
      List.exists_cons_of_ne_nil (Nat.toDigits_ne_nil (n := n.natAbs) (b := 10))
    have hfirst : Digit.isDecimal first = true :=
      isDecimal_of_mem_toDigits (n := n.natAbs) (hdigits ▸ List.mem_cons_self)
    rw [if_neg hsign, List.nil_append]
    rw [decide_eq_false hsign] at hread
    rw [hdigits] at hread ⊢
    unfold parse
    split
    · rename_i heq
      cases heq
    · rename_i heq
      obtain ⟨rfl, -⟩ := List.cons.inj heq
      cases hfirst
    · rename_i heq
      obtain ⟨rfl, -⟩ := List.cons.inj heq
      cases hfirst
    · exact hread

end DocBridge.Decimal

namespace DocBridge

/-- A number is read back from its decimal text, also a negative one. -/
theorem parseInt32?_toString (n : Int32) : parseInt32? (toString n.toInt) = some n := by
  have hlow := n.le_toInt
  have hhigh := n.toInt_lt
  rw [parseInt32?, Decimal.parse_toString (by omega) (by omega)]
  exact congrArg some (Int32.ofInt_toInt n)

end DocBridge

namespace DocBridge.ResourceTarget

open Url

/-- A text with every byte encoded that is no ASCII letter or digit. -/
def encoded (text : String) : String := String.ofList (strictText text)

@[simp]
theorem toList_encoded (text : String) : (encoded text).toList = strictText text :=
  String.toList_ofList

/-! ## Documents -/

theorem ofSegments_document {url : Url} (h : url.scheme = "mddb".toList)
    (uri collection key : String) : ofSegments uri url [collection, key] =
      .ok (.document (documentRequest collection key (queryPairs url))) := by
  have hscheme : String.ofList url.scheme = "mddb" := by rw [h, String.ofList_toList]
  simp only [ofSegments, hscheme]

def placeholderText (entry : String × String) : String :=
  "&env." ++ encoded entry.1 ++ "=" ++ encoded entry.2

def documentUrl (collection key lang : String) (placeholders : List (String × String)) : String :=
  "mddb://" ++ encoded collection ++ "/" ++ encoded key ++ "?lang=" ++ encoded lang ++
    String.join (placeholders.map placeholderText)

def placeholderPair (entry : String × String) : SpelledPair where
  name := (Spelling.word "env." (by decide)).append (.strict entry.1)
  value := .strict entry.2

theorem toList_placeholderText (entry : String × String) :
    (placeholderText entry).toList = '&' :: (placeholderPair entry).written := by
  simp only [placeholderText, String.toList_append, toList_encoded, List.append_assoc]
  rfl

theorem envOf_cons_placeholderPairs {first : String × String} (h : behind? "env." first.1 = none)
    (placeholders : List (String × String)) :
    envOf (first :: (placeholders.map placeholderPair).map SpelledPair.text) =
      .ofList placeholders := by
  have hpair : (fun entry => (behind? "env." (placeholderPair entry).text.1).map
      (·, (placeholderPair entry).text.2)) = some := by
    funext entry
    change (behind? "env." ("env." ++ entry.1)).map (·, entry.2) = some entry
    rw [behind?_append]
    rfl
  rw [envOf, List.filterMap_cons_none (by rw [h]; rfl), List.map_map, List.filterMap_map]
  change SortedMap.ofList (placeholders.filterMap fun entry =>
    (behind? "env." (placeholderPair entry).text.1).map (·, (placeholderPair entry).text.2)) = _
  rw [hpair, List.filterMap_some]

section Document

variable {collection key : String} (hcollection : collection ≠ "")
  (hkey : key ≠ "" ∧ key ≠ "." ∧ key ≠ "..") (lang : String) (placeholders : List (String × String))

def documentParts : EncodedUrl where
  scheme := "mddb".toList
  host := .strict collection
  path := [.strict key]
  query := ⟨.word "lang" (by decide), .strict lang⟩ :: placeholders.map placeholderPair
  scheme_plain := by decide
  scheme_read _ := rfl
  scheme_kind := by decide
  host_filled := hcollection
  path_settled := List.forall_mem_singleton.2 hkey

theorem documentParts_query :
    (documentParts hcollection hkey lang placeholders).query =
      ⟨.word "lang" (by decide), .strict lang⟩ :: placeholders.map placeholderPair :=
  rfl

theorem documentParts_location :
    (documentParts hcollection hkey lang placeholders).location =
      "//".toList ++ (strictText collection ++ '/' :: strictText key) :=
  congrArg (fun rest => "//".toList ++ (strictText collection ++ '/' :: rest)) (List.append_nil _)

theorem documentUrl_eq_text : documentUrl collection key lang placeholders =
    String.ofList (documentParts hcollection hkey lang placeholders).text := by
  rw [← String.toList_inj, String.toList_ofList, EncodedUrl.text, documentParts_query,
    queryText_cons, documentParts_location, List.flatMap_map]
  delta documentUrl
  simp only [String.toList_append, String.toList_join, List.flatMap_map, toList_encoded,
    toList_placeholderText, List.append_assoc]
  rfl

end Document

/-- Every document that has a name can be asked for by a URL, in any language and with any
placeholder values, and the order of these in the URL does not matter. -/
theorem resolve_documentUrl {collection key lang : String} {env : SortedMap String}
    {placeholders : List (String × String)} (hcollection : collection ≠ "")
    (hkey : key ≠ "" ∧ key ≠ "." ∧ key ≠ "..") (hlang : lang ≠ "")
    (henv : placeholders.Perm env.entries) :
    resolve (documentUrl collection key lang placeholders) =
      .ok (.document { collection := collection, key := key, lang := lang, env := env }) := by
  have hpairs : queryPairs (documentParts hcollection hkey lang placeholders).toUrl =
      ("lang", lang) :: (placeholders.map placeholderPair).map SpelledPair.text :=
    EncodedUrl.queryPairs_toUrl _
  have hlangOf : langOf (("lang", lang) ::
      (placeholders.map placeholderPair).map SpelledPair.text) = lang := by
    simp [langOf, hlang]
  have hname : behind? "env." "lang" = none := by decide
  have henvOf : envOf (("lang", lang) :: (placeholders.map placeholderPair).map SpelledPair.text) =
      env := by
    rw [envOf_cons_placeholderPairs hname, SortedMap.ofList_of_perm henv]
  rw [documentUrl_eq_text hcollection hkey, EncodedUrl.resolve_text]
  apply (ofSegments_document rfl _ collection key).trans
  rw [hpairs, documentRequest, hlangOf, henvOf]

/-- Separators and dots of the URL do no harm in what it names. -/
theorem resolve_documentUrl_of_marks :
    documentUrl "a/b" "..?" "pl PL" [("who", "a&b=c"), ("", "%41+")] =
        "mddb://a%2Fb/%2E%2E%3F?lang=pl%20PL&env.who=a%26b%3Dc&env.=%2541%2B" ∧
      resolve (documentUrl "a/b" "..?" "pl PL" [("who", "a&b=c"), ("", "%41+")]) =
        .ok (.document { collection := "a/b", key := "..?", lang := "pl PL"
                         env := .ofList [("", "%41+"), ("who", "a&b=c")] }) :=
  ⟨by decide +kernel, resolve_documentUrl (by decide) (by decide) (by decide) (by decide +kernel)⟩

/-! ## Searches -/

theorem all_isWordChar_toString (n : Int) : (toString n).toList.all isWordChar = true := by
  have hdigit {character : Char} (h : Digit.isDecimal character = true) :
      isWordChar character = true := by
    have hascii : character.toNat < 0x80 := by
      have hbounds := Digit.isDecimal_iff.1 h
      omega
    revert h
    apply forall_ascii _ hascii
    decide
  rw [Decimal.toList_toString_int, List.all_eq_true]
  intro character hcharacter
  rcases List.mem_append.1 hcharacter with hsign | hdigits
  · split at hsign
    · rw [List.mem_singleton.1 hsign]
      decide
    · cases hsign
  · exact hdigit (Json.Outline.NumberPlace.isDecimal_of_mem_toDigits hdigits)

theorem ofSegments_search {url : Url} (h : url.scheme = "mddb-search".toList)
    (uri collection : String) : ofSegments uri url [collection] =
      .ok (.search (searchRequest collection (queryPairs url))) := by
  have hscheme : String.ofList url.scheme = "mddb-search" := by rw [h, String.ofList_toList]
  simp only [ofSegments, hscheme]

/-- One pair of the query of a search. -/
inductive SearchParameter where
  | filter (name value : String)
  | sort (order : String)
  | asc (ascending : Bool)
  | limit (count : Int32)
  | offset (count : Int32)
deriving DecidableEq, Repr

namespace SearchParameter

def text : SearchParameter → String
  | .filter name value => "meta." ++ encoded name ++ "=" ++ encoded value
  | .sort order => "sort=" ++ encoded order
  | .asc ascending => "asc=" ++ toString ascending
  | .limit count => "limit=" ++ toString count.toInt
  | .offset count => "offset=" ++ toString count.toInt

def entry : SearchParameter → String × String
  | .filter name value => ("meta." ++ name, value)
  | .sort order => ("sort", order)
  | .asc ascending => ("asc", toString ascending)
  | .limit count => ("limit", toString count.toInt)
  | .offset count => ("offset", toString count.toInt)

def pair : SearchParameter → SpelledPair
  | .filter name value => ⟨(Spelling.word "meta." (by decide)).append (.strict name), .strict value⟩
  | .sort order => ⟨.word "sort" (by decide), .strict order⟩
  | .asc ascending =>
    ⟨.word "asc" (by decide), .word (toString ascending) (by cases ascending <;> decide)⟩
  | .limit count =>
    ⟨.word "limit" (by decide), .word (toString count.toInt) (all_isWordChar_toString _)⟩
  | .offset count =>
    ⟨.word "offset" (by decide), .word (toString count.toInt) (all_isWordChar_toString _)⟩

theorem text_pair (parameter : SearchParameter) : parameter.pair.text = parameter.entry := by
  cases parameter <;> rfl

theorem toList_text (parameter : SearchParameter) :
    parameter.text.toList = parameter.pair.written := by
  cases parameter <;> simp only [text, String.toList_append, toList_encoded, List.append_assoc] <;>
    rfl

def filterName? : SearchParameter → Option String
  | .filter name _ => some name
  | _ => none

theorem behind?_entry (parameter : SearchParameter) :
    behind? "meta." parameter.entry.1 = parameter.filterName? := by
  cases parameter with
  | filter name value => exact behind?_append "meta." name
  | sort => exact (by decide : behind? "meta." "sort" = none)
  | asc => exact (by decide : behind? "meta." "asc" = none)
  | limit => exact (by decide : behind? "meta." "limit" = none)
  | offset => exact (by decide : behind? "meta." "offset" = none)

def filterValue? (name : String) : SearchParameter → Option String
  | .filter other value => if other = name then some value else none
  | _ => none

end SearchParameter

/-- The pairs that say how the results of a search are listed. -/
def settings (request : SearchRequest) : List SearchParameter :=
  [.sort request.sort, .asc request.asc, .limit request.limit, .offset request.offset]

/-- The pairs that say what a search is for, the filter in the order of its names. -/
def searchParameters (request : SearchRequest) : List SearchParameter :=
  request.filterMeta.entries.flatMap (fun entry => entry.2.map (.filter entry.1)) ++
    settings request

def searchUrl (collection : String) (parameters : List SearchParameter) : String :=
  "mddb-search://" ++ encoded collection ++ "?" ++
    "&".intercalate (parameters.map SearchParameter.text)

def filterValues (name : String) (parameters : List SearchParameter) : List String :=
  parameters.filterMap (SearchParameter.filterValue? name)

/-! ### Filters -/

section Filter

/-- Maps without empty lists are known by what they list. -/
theorem eq_of_listed {first second : Meta} (hfirst : ∀ name, first.get? name ≠ some [])
    (hsecond : ∀ name, second.get? name ≠ some [])
    (h : ∀ name, listed first name = listed second name) : first = second := by
  apply SortedMap.ext_get?
  intro name
  have hfirst := hfirst name
  have hsecond := hsecond name
  have hlisted := h name
  rw [listed, listed] at hlisted
  cases hget : first.get? name <;> cases hget' : second.get? name <;> simp_all

theorem filterValue?_eq (parameter : SearchParameter) (name : String) :
    (if parameter.entry.1 = "meta." ++ name then some parameter.entry.2 else none) =
      parameter.filterValue? name := by
  simp only [eq_comm (a := parameter.entry.1), ← behind?_eq_some_iff, parameter.behind?_entry]
  cases parameter <;> simp [SearchParameter.filterName?, SearchParameter.filterValue?,
    SearchParameter.entry]

theorem valuesOf_entries (parameters : List SearchParameter) (name : String) :
    valuesOf ("meta." ++ name) (parameters.map SearchParameter.entry) =
      filterValues name parameters := by
  rw [valuesOf, filterValues, List.filterMap_map]
  congr
  funext parameter
  exact filterValue?_eq parameter name

theorem filterValues_append (name : String) (first second : List SearchParameter) :
    filterValues name (first ++ second) = filterValues name first ++ filterValues name second :=
  List.filterMap_append

theorem filterValues_map_filter (name other : String) (values : List String) :
    filterValues name (values.map (.filter other)) = if other = name then values else [] := by
  rw [filterValues, List.filterMap_map]
  by_cases h : other = name
  · have hsome : SearchParameter.filterValue? name ∘ SearchParameter.filter other = some :=
      funext fun _ => if_pos h
    rw [hsome, List.filterMap_some, if_pos h]
  · have hnone : SearchParameter.filterValue? name ∘ SearchParameter.filter other = fun _ => none :=
      funext fun _ => if_neg h
    rw [hnone, if_neg h]
    exact List.filterMap_eq_nil_iff.2 fun _ _ => rfl

/-- Spreading out a filter keeps the values of every name together, in their order. -/
theorem filterValues_flatMap {entries : List (String × List String)}
    (h : (entries.map Prod.fst).Nodup) (name : String) :
    filterValues name (entries.flatMap fun entry => entry.2.map (.filter entry.1)) =
      (entries.lookup name).getD [] := by
  induction entries with
  | nil => rfl
  | cons entry rest ih =>
    obtain ⟨other, values⟩ := entry
    obtain ⟨hother, hrest⟩ := List.nodup_cons.1 h
    rw [List.flatMap_cons, filterValues_append, filterValues_map_filter, ih hrest]
    by_cases hname : other = name
    · subst hname
      have hnone : rest.lookup other = none := SortedMap.lookup_eq_none_iff_not_mem.2 hother
      rw [if_pos rfl, hnone, List.lookup_cons_self]
      exact List.append_nil values
    · rw [if_neg hname, SortedMap.lookup_cons_of_ne (Ne.symm hname), List.nil_append]

/-- What a filter lists is what its names stand for among the pairs of its search. -/
theorem filterValues_searchParameters (request : SearchRequest) (name : String) :
    filterValues name (searchParameters request) = listed request.filterMeta name := by
  rw [searchParameters, filterValues_append, filterValues_flatMap request.filterMeta.nodup_keys]
  exact List.append_nil _

/-- A filter is put together again from pairs that keep the order of the values of each name. -/
theorem filterOf_entries {request : SearchRequest} {parameters : List SearchParameter}
    (hfilled : ∀ entry ∈ request.filterMeta.entries, entry.2 ≠ [])
    (horder : ∀ name, filterValues name parameters = filterValues name (searchParameters request)) :
    filterOf (parameters.map SearchParameter.entry) = request.filterMeta := by
  apply eq_of_listed
  · exact filterOf_ne_nil _
  · intro name hname
    exact hfilled _ (SortedMap.get?_eq_some_iff.1 hname) rfl
  · intro name
    rw [listed_filterOf, valuesOf_entries, horder, filterValues_searchParameters]

end Filter

/-! ### Settings -/

theorem first?_eq_some {pairs : List (String × String)} {pair : String × String}
    (hmem : pair ∈ pairs) (honly : ∀ other ∈ pairs, other.1 = pair.1 → other = pair) :
    first? pairs pair.1 = some pair.2 := by
  cases hlookup : pairs.lookup pair.1 with
  | none =>
    exact absurd (List.mem_map_of_mem hmem) (SortedMap.lookup_eq_none_iff_not_mem.1 hlookup)
  | some value =>
    have hpair := honly _ (SortedMap.mem_of_lookup hlookup) rfl
    rw [first?, hlookup, ← hpair]

/-- No two pairs of a search set the same, and none is mistaken for a part of the filter. -/
theorem eq_of_mem_settings {request : SearchRequest} {setting other : SearchParameter}
    (hsetting : setting ∈ settings request) (hother : other ∈ searchParameters request)
    (hname : other.entry.1 = setting.entry.1) : other = setting := by
  have hmeta : setting.filterName? = none := by
    revert setting
    simp [settings, SearchParameter.filterName?]
  rcases List.mem_append.1 hother with hfilter | hother
  · obtain ⟨entry, -, hmem⟩ := List.mem_flatMap.1 hfilter
    obtain ⟨value, -, rfl⟩ := List.mem_map.1 hmem
    have hfound := setting.behind?_entry
    rw [← hname, SearchParameter.behind?_entry, hmeta] at hfound
    cases hfound
  · have hnames : ((settings request).map fun parameter => parameter.entry.1).Nodup :=
      (by decide : ["sort", "asc", "limit", "offset"].Nodup)
    exact List.inj_on_of_nodup_map hnames hother hsetting hname

section Request

variable {request : SearchRequest} {parameters : List SearchParameter}
  (hparameters : parameters.Perm (searchParameters request))
include hparameters

/-- A setting is read as given, wherever it stands, as it is the only one of its name. -/
theorem first?_of_mem_settings (setting : SearchParameter) (h : setting ∈ settings request) :
    first? (parameters.map SearchParameter.entry) setting.entry.1 = some setting.entry.2 := by
  apply first?_eq_some
  · apply List.mem_map_of_mem
    exact hparameters.mem_iff.2 (List.mem_append_right _ h)
  · intro pair hpair hname
    obtain ⟨other, hother, rfl⟩ := List.mem_map.1 hpair
    rw [eq_of_mem_settings h (hparameters.mem_iff.1 hother) hname]

/-- The pairs of a search are read as the search. -/
theorem searchRequest_entries (hfilled : ∀ entry ∈ request.filterMeta.entries, entry.2 ≠ [])
    (horder : ∀ name, filterValues name parameters = filterValues name (searchParameters request)) :
    searchRequest request.collection (parameters.map SearchParameter.entry) = request := by
  have hsettings : ∀ setting ∈ settings request,
      first? (parameters.map SearchParameter.entry) setting.entry.1 = some setting.entry.2 :=
    first?_of_mem_settings hparameters
  simp only [settings, List.forall_mem_cons, SearchParameter.entry] at hsettings
  obtain ⟨hsort, hasc, hlimit, hoffset, -⟩ := hsettings
  have htrue : (some (toString request.asc) == some "true") = request.asc := by
    cases request.asc <;> rfl
  simp only [searchRequest, numberOf, hsort, hasc, hlimit, hoffset, htrue, Option.getD_some,
    Option.bind_some, parseInt32?_toString, filterOf_entries hfilled horder]

end Request

/-! ### The URL of a search -/

section Search

variable {collection : String} (hcollection : collection ≠ "") (parameters : List SearchParameter)

def searchParts : EncodedUrl where
  scheme := "mddb-search".toList
  host := .strict collection
  path := []
  query := parameters.map SearchParameter.pair
  scheme_plain := by decide
  scheme_read _ := rfl
  scheme_kind := by decide
  host_filled := hcollection
  path_settled := List.forall_mem_nil _

theorem searchParts_query :
    (searchParts hcollection parameters).query = parameters.map SearchParameter.pair :=
  rfl

theorem searchParts_location :
    (searchParts hcollection parameters).location = "//".toList ++ strictText collection :=
  congrArg ("//".toList ++ ·) (List.append_nil _)

theorem searchUrl_eq_text :
    searchUrl collection parameters = String.ofList (searchParts hcollection parameters).text := by
  have hquery : queryText (searchParts hcollection parameters).query =
      "&".toList.intercalate ((parameters.map SearchParameter.text).map String.toList) := by
    have hwritten : parameters.map (String.toList ∘ SearchParameter.text) =
        parameters.map (SpelledPair.written ∘ SearchParameter.pair) :=
      List.map_congr_left fun parameter _ => parameter.toList_text
    rw [List.map_map, hwritten, ← List.map_map, searchParts_query]
    rfl
  rw [← String.toList_inj, String.toList_ofList, EncodedUrl.text, hquery, searchParts_location]
  delta searchUrl
  simp only [String.toList_append, String.toList_intercalate, toList_encoded, List.append_assoc]
  rfl

end Search

/-- Every search of a named collection can be asked for by a URL, as long as its filter lists no
name without a value.  The pairs of its query may stand in any order that keeps the values of each
name in theirs. -/
theorem resolve_searchUrl {request : SearchRequest} {parameters : List SearchParameter}
    (hcollection : request.collection ≠ "")
    (hfilled : ∀ entry ∈ request.filterMeta.entries, entry.2 ≠ [])
    (hparameters : parameters.Perm (searchParameters request))
    (horder : ∀ name, filterValues name parameters = filterValues name (searchParameters request)) :
    resolve (searchUrl request.collection parameters) = .ok (.search request) := by
  have hpairs : queryPairs (searchParts hcollection parameters).toUrl =
      parameters.map SearchParameter.entry := by
    rw [EncodedUrl.queryPairs_toUrl, searchParts_query, List.map_map]
    exact List.map_congr_left fun parameter _ => parameter.text_pair
  rw [searchUrl_eq_text hcollection, EncodedUrl.resolve_text]
  apply (ofSegments_search rfl _ request.collection).trans
  rw [hpairs, searchRequest_entries hparameters hfilled horder]

/-- A search whose filter has two names, and its pairs in another order. -/
def reviewSearch : SearchRequest where
  collection := "a|b"
  filterMeta := .ofList [("tag", ["#2", "#1"]), ("state", ["to do"])]
  sort := "-date"
  asc := true
  limit := -5
  offset := 10

def shuffledReview : List SearchParameter :=
  [.offset 10, .filter "tag" "#2", .asc true, .filter "state" "to do", .filter "tag" "#1",
    .limit (-5), .sort "-date"]

theorem resolve_searchUrl_shuffledReview :
    searchUrl "a|b" shuffledReview =
        "mddb-search://a%7Cb?offset=10&meta.tag=%232&asc=true&meta.state=to%20do&meta.tag=%231" ++
          "&limit=-5&sort=%2Ddate" ∧
      resolve (searchUrl "a|b" shuffledReview) = .ok (.search reviewSearch) := by
  have hinOrder : searchParameters reviewSearch =
      [.filter "state" "to do", .filter "tag" "#2", .filter "tag" "#1", .sort "-date", .asc true,
        .limit (-5), .offset 10] := by decide +kernel
  have horder : ∀ name,
      filterValues name shuffledReview = filterValues name (searchParameters reviewSearch) := by
    intro name
    rw [hinOrder]
    by_cases htag : "tag" = name
    · subst htag
      decide
    · by_cases hstate : "state" = name
      · subst hstate
        decide
      · simp only [filterValues, shuffledReview, List.filterMap_cons, List.filterMap_nil,
          SearchParameter.filterValue?, if_neg htag, if_neg hstate]
  have hperm : shuffledReview.Perm (searchParameters reviewSearch) := by
    rw [hinOrder]
    decide
  exact ⟨by decide +kernel, @resolve_searchUrl reviewSearch shuffledReview (by decide)
    (by decide +kernel) hperm horder⟩

end DocBridge.ResourceTarget
