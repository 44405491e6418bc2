import DocBridge.Config
import DocBridge.Proofs.LoopbackSites
import DocBridge.Proofs.Outcomes

/-!
# Endpoints below a base

The base of a REST store is checked as a URL of its own, but the URL of an endpoint is read from a
text that begins with the text of the base.  Both readings cut off the same scheme.  A query or a
fragment of the base takes the path of the endpoint in.  Where there is neither, and the base ends
in a name, the path of the endpoint stands behind that of the base.
-/

namespace DocBridge

/-- What stands before a separator that a tail does not have stands before the tail. -/
theorem exists_of_append_eq_append {α : Type} {before after items tail : List α} {separator : α}
    (h : before ++ separator :: after = items ++ tail) (htail : separator ∉ tail) :
    ∃ behind, items = before ++ separator :: behind ∧ after = behind ++ tail := by
  rcases List.append_eq_append_iff.1 h with ⟨between, rfl, hbehind⟩ | ⟨between, rfl, rfl⟩
  · cases between with
    | nil =>
      rw [List.nil_append] at hbehind
      exact absurd (hbehind ▸ List.mem_cons_self) htail
    | cons first behind =>
      obtain ⟨rfl, rfl⟩ := List.cons.inj hbehind
      exact ⟨behind, rfl, rfl⟩
  · exact absurd (List.mem_append_right between List.mem_cons_self) htail

namespace Url

/-! ## Parts -/

theorem withoutBreaks_append (first second : List Char) :
    withoutBreaks (first ++ second) = withoutBreaks first ++ withoutBreaks second :=
  List.filter_append ..

section Parts

variable {text rest beforeFragment beforeQuery : List Char} {fragment query : Option (List Char)}

/-- The parts of a text that is a URL. -/
theorem exists_parts_of_parse_eq_ok {url : Url} (h : parse text = .ok url) :
    ∃ rest beforeFragment fragment beforeQuery query,
      splitScheme? (trim isOuterBlank text) = some (url.scheme, rest) ∧
      splitFirst (· == '#') rest = (beforeFragment, fragment) ∧
      splitFirst (· == '?') beforeFragment = (beforeQuery, query) ∧
      hierarchy (.ofScheme url.scheme) beforeQuery (query.isNone && fragment.isNone) =
        .ok (url.authority, url.path) ∧
      url.query.isNone = query.isNone ∧ url.fragment.isNone = fragment.isNone := by
  unfold parse at h
  cases hscheme : splitScheme? (trim isOuterBlank text) with
  | none =>
    rw [hscheme] at h
    cases h
  | some found =>
    obtain ⟨scheme, rest⟩ := found
    obtain ⟨beforeFragment, fragment, hfragment⟩ : ∃ before behind,
      splitFirst (· == '#') rest = (before, behind) := ⟨_, _, rfl⟩
    obtain ⟨beforeQuery, query, hquery⟩ : ∃ before behind,
      splitFirst (· == '?') beforeFragment = (before, behind) := ⟨_, _, rfl⟩
    simp only [hscheme, hfragment, hquery] at h
    split at h
    · cases h
    · rename_i authority path hhierarchy
      cases h
      exact ⟨rest, _, _, _, _, rfl, hfragment, hquery, hhierarchy, Option.isNone_map,
        Option.isNone_map⟩

/-- A text is a URL if its parts are. -/
theorem exists_parse_eq_ok {scheme : List Char} {authority : Option Authority} {path : Path}
    (hscheme : splitScheme? (trim isOuterBlank text) = some (scheme, rest))
    (hfragment : splitFirst (· == '#') rest = (beforeFragment, fragment))
    (hquery : splitFirst (· == '?') beforeFragment = (beforeQuery, query))
    (hhierarchy : hierarchy (.ofScheme scheme) beforeQuery (query.isNone && fragment.isNone) =
      .ok (authority, path)) :
    ∃ url, parse text = .ok url ∧ url.scheme = scheme ∧ url.authority = authority ∧
      url.path = path ∧ url.query.isNone = query.isNone ∧
      url.fragment.isNone = fragment.isNone := by
  unfold parse
  simp only [hscheme, hfragment, hquery, hhierarchy]
  exact ⟨_, rfl, rfl, rfl, rfl, Option.isNone_map, Option.isNone_map⟩

theorem splitScheme?_eq_some_iff {scheme : List Char} :
    splitScheme? text = some (scheme, rest) ↔ ∃ before, text = before ++ ':' :: rest ∧
      (∀ character ∈ before, (character == ':') = false) ∧
      ((withoutBreaks before).head?.any Char.isAlpha &&
        (withoutBreaks before).all isSchemeChar) = true ∧
      (withoutBreaks before).map Char.toLower = scheme := by
  unfold splitScheme?
  constructor
  · intro h
    obtain ⟨before, behind, hcolon⟩ : ∃ before behind,
        splitFirst (· == ':') text = (before, behind) := ⟨_, _, rfl⟩
    rw [hcolon] at h
    cases behind with
    | none => cases h
    | some rest =>
      simp only [Option.ite_none_right_eq_some, Option.some.injEq, Prod.mk.injEq] at h
      obtain ⟨hscheme, rfl, rfl⟩ := h
      obtain ⟨separator, hseparator, htext, hbefore⟩ := splitFirst_eq_some_iff.1 hcolon
      obtain rfl := eq_of_beq hseparator
      exact ⟨before, htext, hbefore, hscheme, rfl⟩
  · rintro ⟨before, rfl, hbefore, hscheme, rfl⟩
    have hcolon : splitFirst (· == ':') (before ++ ':' :: rest) = (before, some rest) :=
      splitFirst_append_cons rfl hbefore
    simp only [hcolon, hscheme, if_true]

end Parts

/-! ## Authorities -/

section Authorities

variable {text host : List Char}

theorem bracketed?_ne_nil (h : bracketed? text = .ok (some host)) : host ≠ [] := by
  unfold bracketed? at h
  split at h
  · split at h
    · split at h
      · obtain rfl := Option.some.inj (Except.ok.inj h)
        exact List.cons_ne_nil _ _
      · cases h
    · cases h
  · cases h

/-- A special URL has no empty host. -/
theorem specialHost_ne_nil (h : specialHost text = .ok host) : host ≠ [] := by
  unfold specialHost at h
  split at h
  · cases h
  · rename_i address hbracketed
    obtain rfl := Except.ok.inj h
    exact bracketed?_ne_nil hbracketed
  · split at h
    · cases h
    · split at h
      · cases h
      · split at h
        · cases h
        · rename_i hnonempty
          split at h
          · split at h
            · obtain rfl := Except.ok.inj h
              exact List.append_ne_nil_of_right_ne_nil _ (List.cons_ne_nil _ _)
            · cases h
          · obtain rfl := Except.ok.inj h
            exact fun hempty => hnonempty (List.isEmpty_iff.2 hempty)

theorem mem_of_mem_splitPort {character : Char} {inBrackets : Bool} {behind : List Char}
    (h : (splitPort inBrackets text).2 = some behind) (hmem : character ∈ behind) :
    character ∈ text := by
  induction text generalizing inBrackets with
  | nil => cases h
  | cons first rest ih =>
    rw [splitPort] at h
    split at h
    · obtain rfl := Option.some.inj h
      exact .tail first hmem
    · exact .tail first (ih h)

/-- Nothing is left behind a port but what begins with a backslash. -/
theorem eq_nil_of_port?_eq_ok {port : Option Nat} {left : List Char}
    (h : port? text = .ok (port, left)) (hbackslash : '\\' ∉ text) : left = [] := by
  unfold port? at h
  simp only at h
  split at h
  · rename_i hrest
    rw [hrest] at h
    split at h
    · exact (Prod.mk.inj (Except.ok.inj h)).2.symm
    · split at h
      · split at h
        · exact (Prod.mk.inj (Except.ok.inj h)).2.symm
        · cases h
      · cases h
  · rename_i more hrest
    have hmem : '\\' ∈ text.dropWhile Digit.isDecimal := hrest ▸ List.mem_cons_self
    exact absurd ((List.dropWhile_suffix _).subset hmem) hbackslash
  · cases h

/-- It makes no difference to an authority that needs a host whether something follows it. -/
theorem readAuthority_special (port : Nat) (atEnd : Bool) :
    readAuthority (.special port) text atEnd = readAuthority (.special port) text true := by
  cases atEnd with
  | true => rfl
  | false =>
    obtain ⟨user, location, hsplit⟩ : ∃ user location,
      splitLast (· == '@') text = (user, location) := ⟨_, _, rfl⟩
    unfold readAuthority
    simp only [hsplit]
    by_cases hempty : user = some [] ∧ location = []
    · obtain ⟨rfl, rfl⟩ := hempty
      rfl
    · simp [hempty]

/-- Without a backslash nothing is left behind the authority of a special URL, and it has a host. -/
theorem eq_nil_of_readAuthority_eq_ok {port : Nat} {found : Authority} {left : List Char}
    (h : readAuthority (.special port) text true = .ok (found, left)) (hbackslash : '\\' ∉ text) :
    left = [] ∧ found.host ≠ [] := by
  obtain ⟨user, location, hlocation⟩ : ∃ user location,
    splitLast (· == '@') text = (user, location) := ⟨_, _, rfl⟩
  obtain ⟨hostText, portText, hportText⟩ : ∃ hostText portText,
    splitPort false location = (hostText, portText) := ⟨_, _, rfl⟩
  unfold readAuthority at h
  simp only [hlocation, hportText, Bool.not_true, Bool.false_eq_true, and_false, if_false] at h
  obtain ⟨host, hhost, h⟩ := bind_eq_ok_iff.1 h
  have hnonempty : host ≠ [] := by
    simp only [hostOfKind, SchemeKind.isSpecial, if_true] at hhost
    split at hhost
    · cases hhost
    · exact specialHost_ne_nil hhost
  simp only [List.isEmpty_eq_false_iff.2 hnonempty, Bool.false_and, Bool.false_eq_true,
    if_false] at h
  obtain ⟨⟨number, rest⟩, hport, h⟩ := bind_eq_ok_iff.1 h
  obtain ⟨rfl, rfl⟩ := Prod.mk.inj (Except.ok.inj h)
  refine ⟨eq_nil_of_port?_eq_ok hport fun hmem => hbackslash ?_, hnonempty⟩
  cases portText with
  | none => cases hmem
  | some behind =>
    have hmem : '\\' ∈ location := mem_of_mem_splitPort (congrArg Prod.snd hportText) hmem
    have hlast : (splitLast (· == '@') text).2 = location := congrArg Prod.snd hlocation
    exact mem_of_mem_splitLast (hlast ▸ hmem)

/-- The authority ends at the first slash, so that it is the same before every path. -/
theorem withAuthority_append (port : Nat) {tail : List Char}
    (htail : ∀ first ∈ tail.head?, isAnySlash first = true) :
    withAuthority (.special port) (text ++ tail) true =
      (readAuthority (.special port) (text.takeWhile (!isAnySlash ·)) true).map fun found =>
        (some found.1, pathAfterAuthority (.special port)
          (found.2 ++ (text.dropWhile (!isAnySlash ·) ++ tail))) := by
  have hparts : (text ++ tail).takeWhile (!isAnySlash ·) = text.takeWhile (!isAnySlash ·) ∧
      (text ++ tail).dropWhile (!isAnySlash ·) = text.dropWhile (!isAnySlash ·) ++ tail := by
    induction text with
    | nil =>
      cases tail with
      | nil => exact ⟨rfl, rfl⟩
      | cons first rest =>
        have hfirst : ¬ (!isAnySlash first) = true := by simp [htail first rfl]
        exact ⟨List.takeWhile_cons_of_neg hfirst, List.dropWhile_cons_of_neg hfirst⟩
    | cons first rest ih =>
      rw [List.cons_append, List.takeWhile_cons, List.takeWhile_cons, List.dropWhile_cons,
        List.dropWhile_cons]
      split
      · exact ⟨congrArg (first :: ·) ih.1, ih.2⟩
      · exact ⟨rfl, rfl⟩
  have hslash : (fun character => !SchemeKind.isSlash (.special port) character) =
      (!isAnySlash ·) := rfl
  simp only [withAuthority, hslash, hparts, readAuthority_special port (_ && _)]
  cases readAuthority (.special port) (text.takeWhile (!isAnySlash ·)) true <;> rfl

/-- An authority that is read before slashes is read before every other path as well, and what
stands behind it is the same. -/
theorem exists_of_withAuthority_eq_ok {port count : Nat} {shared : List Char}
    {authority : Option Authority} {path : Path}
    (h : withAuthority (.special port)
      ((shared ++ List.replicate count '/').dropWhile isAnySlash) true = .ok (authority, path)) :
    ∃ found behind, authority = some found ∧ found.host ≠ [] ∧
      path = pathAfterAuthority (.special port) (behind ++ List.replicate count '/') ∧
      (behind = [] ∨ ∃ before slash inner, behind = slash :: inner ∧ isAnySlash slash = true ∧
        shared = before ++ slash :: inner) ∧
      ∀ tail : List Char, (∀ first ∈ tail.head?, isAnySlash first = true) →
        withAuthority (.special port) ((shared ++ tail).dropWhile isAnySlash) true =
          .ok (some found, pathAfterAuthority (.special port) (behind ++ tail)) := by
  have hslashes : ∀ character ∈ List.replicate count '/', isAnySlash character = true :=
    fun character hmem => List.eq_of_mem_replicate hmem ▸ rfl
  obtain ⟨text, htext⟩ : ∃ text, shared.dropWhile isAnySlash = text := ⟨_, rfl⟩
  obtain ⟨behind, hbehind⟩ : ∃ behind, text.dropWhile (!isAnySlash ·) = behind := ⟨_, rfl⟩
  -- Slashes alone have no host, so the authority begins before them.
  have hnonempty : text.isEmpty = false := by
    rw [Bool.eq_false_iff]
    intro hempty
    rw [List.dropWhile_append, htext, if_pos hempty, List.dropWhile_eq_nil_iff.2 hslashes] at h
    cases h
  have hdrop : ∀ tail, (shared ++ tail).dropWhile isAnySlash = text ++ tail := by
    intro tail
    rw [List.dropWhile_append, htext, if_neg (by simp [hnonempty])]
  have hhead : ∀ first ∈ (List.replicate count '/').head?, isAnySlash first = true :=
    fun first hfirst => hslashes first (List.mem_of_mem_head? hfirst)
  rw [hdrop, withAuthority_append port hhead] at h
  obtain ⟨⟨found, left⟩, hfound, hparts⟩ := map_eq_ok_iff.1 h
  have hbackslash : '\\' ∉ text.takeWhile (!isAnySlash ·) :=
    fun hmem => nomatch List.all_eq_true.1 List.all_takeWhile _ hmem
  obtain ⟨rfl, hhost⟩ := eq_nil_of_readAuthority_eq_ok hfound hbackslash
  obtain ⟨rfl, rfl⟩ := Prod.mk.inj hparts
  rw [List.nil_append, hbehind]
  refine ⟨found, behind, rfl, hhost, rfl, ?_, fun tail htail => ?_⟩
  · cases behind with
    | nil => exact .inl rfl
    | cons slash inner =>
      have hslash := List.head?_dropWhile_not (!isAnySlash ·) text
      rw [hbehind] at hslash
      refine .inr ⟨shared.takeWhile isAnySlash ++ text.takeWhile (!isAnySlash ·), slash, inner, rfl,
        by simpa using hslash, ?_⟩
      rw [List.append_assoc, ← hbehind, List.takeWhile_append_dropWhile, ← htext,
        List.takeWhile_append_dropWhile]
  · rw [hdrop, withAuthority_append port htail, hfound, hbehind]
    rfl

end Authorities

/-! ## Paths -/

theorem isAnySlash_of_isNameChar (character : Char) (h : isNameChar character = true) :
    isAnySlash character = false := by
  rw [isAnySlash, beq_eq_false_of_isNameChar h rfl, beq_eq_false_of_isNameChar h rfl]
  rfl

/-- What stands before a name is resolved without what stands behind it. -/
theorem exists_resolve_append_cons {name : List Char} (hdot : isSingleDot name = false)
    (hdots : isDoubleDot name = false) (before front : List (List Char)) :
    ∃ kept, ∀ tail, (∀ name ∈ tail, IsSettled name) → resolve before (front ++ name :: tail) =
      kept ++ percentEncode isPathReserved name :: tail := by
  induction front generalizing before with
  | nil =>
    refine ⟨before, fun tail htail => ?_⟩
    have hadvance : advance before name tail.isEmpty =
        before ++ [percentEncode isPathReserved name] := by
      simp only [advance, hdot, hdots, Bool.false_eq_true, if_false]
    rw [List.nil_append, resolve, hadvance, resolve_of_isSettled htail, List.append_assoc,
      List.singleton_append]
  | cons segment front ih =>
    obtain ⟨kept, hkept⟩ := ih (advance before segment false)
    refine ⟨kept, fun tail htail => ?_⟩
    have hmore : (front ++ name :: tail).isEmpty = false := by simp
    rw [List.cons_append, resolve, hmore, hkept tail htail]

theorem slash_not_mem_percentEncode {isReserved : Char → Bool} {text : List Char}
    (h : '/' ∉ text) : '/' ∉ percentEncode isReserved text := by
  have hbytes : ∀ byte, '/' ∉ percentByte byte := by
    apply Form.forall_byte
    decide +kernel
  intro hslash
  obtain ⟨character, hcharacter, hmem⟩ := List.mem_flatMap.1 hslash
  rw [percentChar] at hmem
  split at hmem
  · obtain rfl := List.mem_singleton.1 hmem
    exact h hcharacter
  · obtain ⟨byte, -, hbyte⟩ := List.mem_flatMap.1 hmem
    exact hbytes byte hbyte

theorem percentEncode_ne_nil {isReserved : Char → Bool} {text : List Char} (h : text ≠ []) :
    percentEncode isReserved text ≠ [] := by
  obtain ⟨first, rest, rfl⟩ := List.exists_cons_of_ne_nil h
  have hfirst : percentChar isReserved first ≠ [] := by
    rw [percentChar]
    split
    · exact List.cons_ne_nil _ _
    · obtain ⟨byte, bytes, hbytes⟩ :=
        List.exists_cons_of_ne_nil (String.utf8EncodeChar_ne_nil (c := first))
      rw [hbytes]
      exact List.cons_ne_nil _ _
  rw [percentEncode, List.flatMap_cons]
  exact List.append_ne_nil_of_left_ne_nil hfirst _

end Url

namespace Rest

open Url

/-! ## Texts -/

theorem exists_toList_eq_trimBase_append (base : String) :
    ∃ count, base.toList = (trimBase base).toList ++ List.replicate count '/' := by
  have hslash : ∀ character ∈ base.toList.reverse.takeWhile (fun character =>
      decide (character = '/')), character = '/' :=
    fun character hmem => of_decide_eq_true (List.all_eq_true.1 List.all_takeWhile character hmem)
  refine ⟨(base.toList.reverse.takeWhile fun character => decide (character = '/')).length, ?_⟩
  rw [← List.reverse_replicate, ← List.eq_replicate_of_mem hslash, trimBase, String.toList_ofList,
    ← List.reverse_append, List.takeWhile_append_dropWhile, List.reverse_reverse]

theorem trimBase_append_replicate {stem : List Char} (h : stem.getLast? ≠ some '/') (count : Nat) :
    trimBase (String.ofList (stem ++ List.replicate count '/')) = String.ofList stem := by
  have hslash : ∀ character ∈ List.replicate count '/', decide (character = '/') = true :=
    fun character hmem => decide_eq_true (List.eq_of_mem_replicate hmem)
  have hstem : trimBase (String.ofList stem) = String.ofList stem :=
    trimBase_of_getLast?_ne (by rwa [String.toList_ofList])
  rw [← hstem, trimBase, trimBase, String.toList_ofList, String.toList_ofList, List.reverse_append,
    List.reverse_replicate, List.dropWhile_append_of_pos hslash]

theorem not_mem_slashes {character : Char} (h : character ≠ '/') {count : Nat} :
    character ∉ List.replicate count '/' :=
  fun hmem => h (List.eq_of_mem_replicate hmem)

theorem toList_endpointText (base : String) (operation : Operation) :
    (endpointText base operation).toList =
      (trimBase base).toList ++ (endpointPath operation).toList :=
  String.toList_append

theorem not_isOuterBlank_of_mem_getLast?_endpointText (base : String) (operation : Operation) :
    ∀ last ∈ (endpointText base operation).toList.getLast?, isOuterBlank last = false := by
  intro last hlast
  have hnonempty : (endpointPath operation).toList ≠ [] := by
    cases operation <;> exact List.cons_ne_nil _ _
  rw [toList_endpointText, List.getLast?_append_of_ne_nil _ hnonempty] at hlast
  have hmem := List.mem_of_getLast? hlast
  exact (isUrlChar_spec (isUrlChar_of_isPlainChar (all_isPlainChar_path operation) last hmem)).1

/-- The scheme of a base is that of its endpoints.  Behind its colon the base goes on with slashes
from which blanks may have been cut off, and an endpoint with its path. -/
theorem splitScheme?_endpointText {base : String} {scheme rest : List Char}
    (h : splitScheme? (trim isOuterBlank base.toList) = some (scheme, rest)) :
    ∃ front behind tail count, base.toList = front ++ ':' :: (rest ++ tail) ∧
      (trimBase base).toList = front ++ ':' :: behind ∧
      rest ++ tail = behind ++ List.replicate count '/' ∧
      (∀ character ∈ tail, isOuterBlank character = true) ∧
      ∀ operation, splitScheme? (trim isOuterBlank (endpointText base operation).toList) =
        some (scheme, behind ++ (endpointPath operation).toList) := by
  obtain ⟨count, hcount⟩ := exists_toList_eq_trimBase_append base
  obtain ⟨before, htrim, hbefore, hscheme, hlower⟩ := splitScheme?_eq_some_iff.1 h
  obtain ⟨tail, htail, hdrop⟩ := exists_dropWhile_eq_trim_append isOuterBlank base.toList
  obtain ⟨blanks, hblanks⟩ : ∃ blanks, base.toList.takeWhile isOuterBlank = blanks := ⟨_, rfl⟩
  have hblank : ∀ character ∈ blanks, isOuterBlank character = true :=
    fun character hmem => List.all_eq_true.1 List.all_takeWhile character (hblanks ▸ hmem)
  have hbase : base.toList = (blanks ++ before) ++ ':' :: (rest ++ tail) := by
    rw [← List.takeWhile_append_dropWhile (p := isOuterBlank) (l := base.toList), hblanks, hdrop,
      htrim]
    simp
  obtain ⟨behind, htrimmed, hrest⟩ :=
    exists_of_append_eq_append (hbase.symm.trans hcount) (not_mem_slashes (by decide))
  refine ⟨blanks ++ before, behind, tail, count, hbase, htrimmed, hrest, htail, fun operation => ?_⟩
  -- What begins the text is not blank, whatever stands behind the colon.
  have hfirst : ∀ rest, (before ++ ':' :: rest).dropWhile isOuterBlank = before ++ ':' :: rest := by
    intro other
    cases before with
    | nil => rfl
    | cons first before =>
      have hnot := List.head?_dropWhile_not isOuterBlank base.toList
      rw [hdrop, htrim] at hnot
      exact List.dropWhile_cons_of_neg (Bool.eq_false_iff.1 hnot)
  have hendpoint : trim isOuterBlank (endpointText base operation).toList =
      before ++ ':' :: (behind ++ (endpointPath operation).toList) := by
    rw [trim_eq_dropWhile (not_isOuterBlank_of_mem_getLast?_endpointText base operation),
      toList_endpointText, htrimmed, List.append_assoc, List.append_assoc,
      List.dropWhile_append_of_pos hblank, List.cons_append, hfirst]
  exact splitScheme?_eq_some_iff.2 ⟨before, hendpoint, hbefore, hscheme, hlower⟩

/-! ## Queries and fragments -/

/-- A mark that the base does not have is not in the text of an endpoint either. -/
theorem not_mark_of_append {rest tail behind : List Char} {count : Nat} {mark : Char}
    (hrest : rest ++ tail = behind ++ List.replicate count '/')
    (htail : ∀ character ∈ tail, isOuterBlank character = true)
    (hblank : isOuterBlank mark = false) (hplain : isPlainChar mark = false)
    (h : ∀ character ∈ rest, (character == mark) = false) (operation : Operation) :
    ∀ character ∈ behind ++ (endpointPath operation).toList, (character == mark) = false := by
  intro character hcharacter
  rcases List.mem_append.1 hcharacter with hbehind | hpath
  · have hmem : character ∈ rest ++ tail := hrest ▸ List.mem_append_left _ hbehind
    rcases List.mem_append.1 hmem with hrest | hblanks
    · exact h character hrest
    · rw [beq_eq_false_iff_ne]
      rintro rfl
      cases hblank.symm.trans (htail character hblanks)
  · exact beq_eq_false_of_isPlainChar (all_isPlainChar_path operation) mark hplain character hpath

/-- A URL keeps its scheme when an endpoint is put behind it. -/
theorem scheme_endpoint {base : String} {url endpoint : Url} {operation : Operation}
    (hurl : parse base.toList = .ok url)
    (hendpoint : parse (endpointText base operation).toList = .ok endpoint) :
    endpoint.scheme = url.scheme := by
  obtain ⟨_, _, _, _, _, hscheme, -⟩ := exists_parts_of_parse_eq_ok hurl
  obtain ⟨_, _, _, _, _, hother, -⟩ := exists_parts_of_parse_eq_ok hendpoint
  obtain ⟨_, _, _, _, -, -, -, -, hshared⟩ := splitScheme?_endpointText hscheme
  exact congrArg Prod.fst (Option.some.inj (hother.symm.trans (hshared operation)))

/-- A query or fragment of the base takes in the path of the endpoint. -/
theorem parse_endpoint_of_query_or_fragment {base : String} {url : Url}
    (hurl : parse base.toList = .ok url) (h : ¬ (url.query = none ∧ url.fragment = none))
    (operation : Operation) :
    ∃ endpoint, parse (endpointText base operation).toList = .ok endpoint ∧
      endpoint.authority = url.authority ∧ endpoint.path = url.path := by
  obtain ⟨rest, beforeFragment, fragment, beforeQuery, query, hscheme, hfragment, hquery,
    hhierarchy, hurlQuery, hurlFragment⟩ := exists_parts_of_parse_eq_ok hurl
  obtain ⟨front, behind, tail, count, -, -, hrest, htail, hshared⟩ :=
    splitScheme?_endpointText hscheme
  cases fragment with
  | some fragment =>
    obtain ⟨separator, hseparator, rfl, hbefore⟩ := splitFirst_eq_some_iff.1 hfragment
    obtain rfl := eq_of_beq hseparator
    rw [List.append_assoc, List.cons_append] at hrest
    obtain ⟨more, rfl, -⟩ := exists_of_append_eq_append hrest (not_mem_slashes (by decide))
    have hsplit : splitFirst (· == '#') (beforeFragment ++ '#' :: more ++
        (endpointPath operation).toList) =
          (beforeFragment, some (more ++ (endpointPath operation).toList)) := by
      rw [List.append_assoc, List.cons_append]
      exact splitFirst_append_cons rfl hbefore
    obtain ⟨endpoint, hendpoint, -, hauthority, hpath, -⟩ :=
      exists_parse_eq_ok (hshared operation) hsplit hquery hhierarchy
    exact ⟨endpoint, hendpoint, hauthority, hpath⟩
  | none =>
    obtain ⟨rfl, hnone⟩ := splitFirst_eq_none_iff.1 hfragment
    cases query with
    | none =>
      rw [← Option.isNone_iff_eq_none, ← Option.isNone_iff_eq_none, hurlQuery, hurlFragment] at h
      exact absurd h (by simp)
    | some query =>
      obtain ⟨separator, hseparator, rfl, hbefore⟩ := splitFirst_eq_some_iff.1 hquery
      obtain rfl := eq_of_beq hseparator
      have hbehind := not_mark_of_append hrest htail (by decide) (by decide) hnone operation
      rw [List.append_assoc, List.cons_append] at hrest
      obtain ⟨more, rfl, -⟩ := exists_of_append_eq_append hrest (not_mem_slashes (by decide))
      have hfragment := splitFirst_of_forall_not hbehind
      have hsplit : splitFirst (· == '?') (beforeQuery ++ '?' :: more ++
          (endpointPath operation).toList) =
            (beforeQuery, some (more ++ (endpointPath operation).toList)) := by
        rw [List.append_assoc, List.cons_append]
        exact splitFirst_append_cons rfl hbefore
      obtain ⟨endpoint, hendpoint, -, hauthority, hpath, -⟩ :=
        exists_parse_eq_ok (hshared operation) hfragment hsplit hhierarchy
      exact ⟨endpoint, hendpoint, hauthority, hpath⟩

/-! ## Paths -/

def endpointNames (operation : Operation) : List (List Char) :=
  (splitAll (· == '/') (endpointPath operation).toList).drop 1

theorem segmentsText_endpointNames (operation : Operation) :
    segmentsText (endpointNames operation) = (endpointPath operation).toList := by
  cases operation <;> rfl

theorem isSettled_of_mem_endpointNames (operation : Operation) :
    ∀ name ∈ endpointNames operation, IsSettled name := by
  have hall : (endpointNames operation).all (fun name =>
      name.all isNameChar && !isSingleDot name && !isDoubleDot name) = true := by
    cases operation <;> rfl
  intro name hname
  have hsettled := List.all_eq_true.1 hall name hname
  simp only [Bool.and_eq_true, Bool.not_eq_true', List.all_eq_true] at hsettled
  exact ⟨hsettled.1.1, hsettled.1.2, hsettled.2⟩

theorem segmentsText_replicate (count : Nat) :
    segmentsText (List.replicate count []) = List.replicate count '/' := by
  induction count with
  | zero => rfl
  | succ count ih =>
    rw [List.replicate_succ, List.replicate_succ, ← ih]
    rfl

/-- Whether a name stands behind the last slash of a text, rather than nothing or dots. -/
def EndsInName (text : List Char) : Prop :=
  ∃ front name, splitAll isAnySlash text = front ++ [name] ∧ name ≠ [] ∧
    isSingleDot name = false ∧ isDoubleDot name = false

theorem EndsInName.of_append_cons {before inner : List Char} {slash : Char}
    (hslash : isAnySlash slash = true) (h : EndsInName (before ++ slash :: inner)) :
    EndsInName inner := by
  obtain ⟨front, name, hpieces, hname⟩ := h
  rw [splitAll_append_cons hslash] at hpieces
  rcases List.eq_nil_or_concat (splitAll isAnySlash inner) with hnil | ⟨others, last, hlast⟩
  · exact absurd hnil (splitAll_ne_nil isAnySlash inner)
  · rw [hlast, List.concat_eq_append, ← List.append_assoc] at hpieces
    obtain ⟨-, hsame⟩ := List.append_inj' hpieces rfl
    obtain rfl := List.singleton_inj.1 hsame
    exact ⟨others, last, hlast.trans (List.concat_eq_append ..), hname⟩

theorem isSettled_of_mem_replicate (count : Nat) :
    ∀ name ∈ List.replicate count [], IsSettled name := by
  intro name hname
  rw [List.eq_of_mem_replicate hname]
  exact ⟨nofun, rfl, rfl⟩

/-- What is resolved behind a name is written behind the text of what is resolved up to the name. -/
theorem EndsInName.exists_stem {inner : List Char} (h : EndsInName inner) (port : Nat)
    {slash : Char} (hslash : isAnySlash slash = true) :
    ∃ stem : List Char, stem.getLast? ≠ some '/' ∧
      ∀ names, (∀ name ∈ names, IsSettled name) →
        (pathAfterAuthority (.special port) (slash :: inner ++ segmentsText names)).text =
          stem ++ segmentsText names := by
  obtain ⟨front, name, hpieces, hname, hdot, hdots⟩ := h
  obtain ⟨kept, hkept⟩ := exists_resolve_append_cons hdot hdots [] front
  refine ⟨segmentsText kept ++ '/' :: percentEncode isPathReserved name, ?_, fun names hnames => ?_⟩
  · have hplain : '/' ∉ name := by
      intro hmem
      have hpiece : name ∈ splitAll isAnySlash inner := by simp [hpieces]
      cases forall_not_of_mem_splitAll hpiece '/' hmem
    rw [List.getLast?_append_of_ne_nil _ (List.cons_ne_nil _ _),
      List.getLast?_cons_of_ne_nil (percentEncode_ne_nil hname)]
    exact fun hlast => slash_not_mem_percentEncode hplain (List.mem_of_getLast? hlast)
  · have hbehind : pathAfterAuthority (.special port) (slash :: inner ++ segmentsText names) =
        .segments (resolve [] (splitAll isAnySlash (inner ++ segmentsText names))) := by
      have hkind : SchemeKind.isSlash (.special port) slash = true := hslash
      simp only [List.cons_append, pathAfterAuthority, hkind, if_true]
      rfl
    rw [hbehind, splitAll_append_of_isSettled rfl isAnySlash_of_isNameChar hnames, hpieces,
      List.append_assoc, List.singleton_append, hkept names hnames]
    simp [Path.text, segmentsText]

/-- A path of slashes alone stays as it is, but for an empty one, which becomes a slash. -/
theorem exists_text_pathAfterAuthority_replicate (port count : Nat) :
    ∃ slashes, (pathAfterAuthority (.special port) (List.replicate count '/')).text =
      List.replicate slashes '/' := by
  cases count with
  | zero => exact ⟨1, rfl⟩
  | succ count =>
    refine ⟨count + 1, ?_⟩
    have hpieces : splitAll isAnySlash ([] ++ segmentsText (List.replicate count [])) =
        List.replicate (count + 1) [] :=
      splitAll_append_of_isSettled rfl isAnySlash_of_isNameChar
        (isSettled_of_mem_replicate count) []
    rw [← segmentsText_replicate]
    change segmentsText (resolve [] (splitAll isAnySlash
      ([] ++ segmentsText (List.replicate count [])))) = _
    rw [hpieces, resolve_of_isSettled (isSettled_of_mem_replicate (count + 1)), List.nil_append]

/-- The path of a base that ends in a name, and those of its endpoints, begin with the same text
and go on as they are written. -/
theorem exists_stem (port : Nat) {path : List Char}
    (h : path = [] ∨ ∃ slash inner, path = slash :: inner ∧ isAnySlash slash = true ∧
      EndsInName inner) :
    ∃ stem : List Char, stem.getLast? ≠ some '/' ∧
      (∀ count, ∃ slashes, (pathAfterAuthority (.special port)
        (path ++ List.replicate count '/')).text = stem ++ List.replicate slashes '/') ∧
      ∀ operation, (pathAfterAuthority (.special port)
        (path ++ (endpointPath operation).toList)).text =
          stem ++ (endpointPath operation).toList := by
  obtain rfl | ⟨slash, inner, rfl, hslash, hname⟩ := h
  · exact ⟨[], by simp, exists_text_pathAfterAuthority_replicate port,
      fun operation => by cases operation <;> rfl⟩
  · obtain ⟨stem, hstem, htext⟩ := hname.exists_stem port hslash
    refine ⟨stem, hstem, fun count => ⟨count, ?_⟩, fun operation => ?_⟩
    · rw [← segmentsText_replicate]
      exact htext _ (isSettled_of_mem_replicate count)
    · rw [← segmentsText_endpointNames]
      exact htext _ (isSettled_of_mem_endpointNames operation)

/-! ## Endpoints -/

/-- A base that endpoints can stand below: a web address without a query or a fragment, with no
blank at its end, that ends in a name but for slashes.  Tabs and line breaks do not count. -/
structure IsPlainBase (base : String) (url : Url) : Prop where
  web : url.scheme = "http".toList ∨ url.scheme = "https".toList
  query : url.query = none
  fragment : url.fragment = none
  notBlank : ∀ last ∈ (withoutBreaks base.toList).getLast?, isOuterBlank last = false
  name : EndsInName (withoutBreaks (trimBase base).toList)

theorem IsPlainBase.exists_ofScheme_eq {base : String} {url : Url} (h : IsPlainBase base url) :
    ∃ port, SchemeKind.ofScheme url.scheme = .special port := by
  rcases h.web with hweb | hweb
  · exact ⟨80, by rw [hweb]; rfl⟩
  · exact ⟨443, by rw [hweb]; rfl⟩

/-- The path of a plain base ends in a name, if it has a path. -/
theorem IsPlainBase.endsInName {base : String} {url : Url} (h : IsPlainBase base url)
    {front behind before inner : List Char} {slash : Char}
    (htrimmed : (trimBase base).toList = front ++ ':' :: behind)
    (hslash : isAnySlash slash = true) (hbehind : withoutBreaks behind = before ++ slash :: inner) :
    EndsInName inner := by
  have hname := h.name
  rw [htrimmed, withoutBreaks_append, ← List.singleton_append, withoutBreaks_append, hbehind,
    ← List.append_assoc, ← List.append_assoc] at hname
  exact hname.of_append_cons hslash

theorem withoutBreaks_rest {base : String} {front rest tail behind : List Char} {count : Nat}
    (hbase : base.toList = front ++ ':' :: (rest ++ tail))
    (hrest : rest ++ tail = behind ++ List.replicate count '/')
    (htail : ∀ character ∈ tail, isOuterBlank character = true)
    (hblank : ∀ last ∈ (withoutBreaks base.toList).getLast?, isOuterBlank last = false) :
    withoutBreaks rest = withoutBreaks behind ++ List.replicate count '/' := by
  have hslashes : withoutBreaks (List.replicate count '/') = List.replicate count '/' :=
    List.filter_eq_self.2 fun character hmem => List.eq_of_mem_replicate hmem ▸ rfl
  have hnil : withoutBreaks tail = [] := by
    rcases List.eq_nil_or_concat (withoutBreaks tail) with hnil | ⟨others, last, hlast⟩
    · exact hnil
    · have hmem : last ∈ withoutBreaks tail := by simp [hlast]
      have hend : last ∈ (withoutBreaks base.toList).getLast? := by
        rw [hbase, ← List.cons_append, ← List.append_assoc, withoutBreaks_append, hlast]
        simp
      cases (htail last (List.mem_of_mem_filter hmem)).symm.trans (hblank last hend)
  have hbreaks := congrArg withoutBreaks hrest
  rwa [withoutBreaks_append, withoutBreaks_append, hnil, List.append_nil, hslashes] at hbreaks

theorem withoutBreaks_path (operation : Operation) :
    withoutBreaks (endpointPath operation).toList = (endpointPath operation).toList :=
  withoutBreaks_of_isUrlChar (isUrlChar_of_isPlainChar (all_isPlainChar_path operation))

/-- The path of an endpoint below a plain base stands behind that of the base. -/
theorem parse_endpoint_of_isPlainBase {base : String} {url : Url} (h : IsPlainBase base url)
    (hurl : parse base.toList = .ok url) (operation : Operation) :
    ∃ endpoint host, parse (endpointText base operation).toList = .ok endpoint ∧
      endpoint.scheme = url.scheme ∧ endpoint.authority = url.authority ∧
      endpoint.host? = some host ∧ endpoint.query = none ∧ endpoint.fragment = none ∧
      String.ofList endpoint.path.text =
        trimBase (String.ofList url.path.text) ++ endpointPath operation := by
  obtain ⟨port, hport⟩ := h.exists_ofScheme_eq
  obtain ⟨_, _, fragment, rest, query, hscheme, hfragment, hquery, hhierarchy, hurlQuery,
    hurlFragment⟩ := exists_parts_of_parse_eq_ok hurl
  obtain rfl : fragment = none := by simpa [h.fragment] using hurlFragment
  obtain rfl : query = none := by simpa [h.query] using hurlQuery
  obtain ⟨rfl, hnoFragment⟩ := splitFirst_eq_none_iff.1 hfragment
  obtain ⟨rfl, hnoQuery⟩ := splitFirst_eq_none_iff.1 hquery
  obtain ⟨front, behind, tail, count, hbase, htrimmed, hrest, htail, hshared⟩ :=
    splitScheme?_endpointText hscheme
  have hmarks : ∀ mark, isOuterBlank mark = false → isPlainChar mark = false →
      (∀ character ∈ rest, (character == mark) = false) →
      splitFirst (· == mark) (behind ++ (endpointPath operation).toList) =
        (behind ++ (endpointPath operation).toList, none) :=
    fun mark hblank hplain hnone => splitFirst_of_forall_not
      (not_mark_of_append hrest htail hblank hplain hnone operation)
  have hread : withAuthority (.special port)
      ((withoutBreaks behind ++ List.replicate count '/').dropWhile isAnySlash) true =
        .ok (url.authority, url.path) := by
    rw [hport] at hhierarchy
    rw [← withoutBreaks_rest hbase hrest htail h.notBlank]
    exact hhierarchy
  obtain ⟨found, path, hauthority, hhost, hpath, hbehind, hread⟩ :=
    exists_of_withAuthority_eq_ok hread
  have hends : path = [] ∨ ∃ slash inner, path = slash :: inner ∧ isAnySlash slash = true ∧
      EndsInName inner := by
    refine hbehind.imp_right ?_
    rintro ⟨before, slash, inner, rfl, hslash, hbefore⟩
    exact ⟨slash, inner, rfl, hslash, h.endsInName htrimmed hslash hbefore⟩
  obtain ⟨stem, hstem, hslashes, hendpoints⟩ := exists_stem port hends
  obtain ⟨slashes, hslashes⟩ := hslashes count
  have hhead : ∀ first ∈ (endpointPath operation).toList.head?, isAnySlash first = true := by
    cases operation <;> exact fun first hfirst => Option.some.inj hfirst ▸ rfl
  have hendpoint : hierarchy (.ofScheme url.scheme) (behind ++ (endpointPath operation).toList)
      true = .ok (some found, pathAfterAuthority (.special port)
        (path ++ (endpointPath operation).toList)) := by
    rw [hport, ← hread _ hhead, ← withoutBreaks_path operation, ← withoutBreaks_append,
      withoutBreaks_path operation]
    rfl
  obtain ⟨endpoint, hparse, hsameScheme, hsameAuthority, hpathAfter, hnoMoreQuery,
    hnoMoreFragment⟩ := exists_parse_eq_ok (hshared operation) (hmarks '#' rfl rfl hnoFragment)
      (hmarks '?' rfl rfl hnoQuery) hendpoint
  refine ⟨endpoint, found.host, hparse, hsameScheme, hsameAuthority.trans hauthority.symm, ?_,
    Option.isNone_iff_eq_none.1 hnoMoreQuery, Option.isNone_iff_eq_none.1 hnoMoreFragment, ?_⟩
  · simp [host?, hsameAuthority, hhost]
  · rw [hpathAfter, hendpoints, hpath, hslashes, trimBase_append_replicate hstem,
      String.ofList_append, String.ofList_toList]

theorem trimBase_append_endpointPath_ne (path : String) (operation : Operation) :
    trimBase path ++ endpointPath operation ≠ path := by
  intro hsame
  obtain ⟨count, hcount⟩ := exists_toList_eq_trimBase_append path
  have htext := congrArg String.toList hsame
  rw [String.toList_append, hcount] at htext
  have hslashes : (endpointPath operation).toList = List.replicate count '/' :=
    List.append_cancel_left htext
  have hother : (endpointPath operation).toList.all (· == '/') = false := by
    cases operation <;> rfl
  rw [hslashes] at hother
  simp at hother

/-- A base that passes the check is a URL, and every endpoint has its scheme.  If the base is
plain, each endpoint is on its host, with the path of the base but for slashes at its end and
behind that the path of the endpoint.  If it has a query or a fragment, the path of the endpoint
goes there and that of the base stays as it is. -/
theorem endpoints_stand_below_plain_bases {config : Config} (h : config.validate = .ok ()) :
    ∃ url, parse config.restBaseUrl.toList = .ok url ∧ ∀ operation,
      (IsPlainBase config.restBaseUrl url → ∃ endpoint host,
        parse (endpointText config.restBaseUrl operation).toList = .ok endpoint ∧
        endpoint.scheme = url.scheme ∧ endpoint.authority = url.authority ∧
        url.host? = some host ∧ endpoint.host? = some host ∧
        endpoint.query = none ∧ endpoint.fragment = none ∧
        String.ofList endpoint.path.text =
          trimBase (String.ofList url.path.text) ++ endpointPath operation) ∧
      (¬ (url.query = none ∧ url.fragment = none) → ∃ endpoint,
        parse (endpointText config.restBaseUrl operation).toList = .ok endpoint ∧
        endpoint.authority = url.authority ∧ endpoint.path = url.path ∧
        String.ofList endpoint.path.text ≠
          trimBase (String.ofList url.path.text) ++ endpointPath operation) ∧
      ∀ endpoint, parse (endpointText config.restBaseUrl operation).toList = .ok endpoint →
        endpoint.scheme = url.scheme := by
  obtain ⟨url, hurl⟩ : ∃ url, parse config.restBaseUrl.toList = .ok url := by
    unfold Config.validate at h
    split at h
    · cases h
    · split at h
      · cases h
      · split at h
        · cases h
        · rename_i url hurl
          exact ⟨url, hurl⟩
  refine ⟨url, hurl, fun operation => ⟨fun hplain => ?_, fun hmarked => ?_, fun endpoint => ?_⟩⟩
  · obtain ⟨endpoint, host, hendpoint, hscheme, hauthority, hhost, hrest⟩ :=
      parse_endpoint_of_isPlainBase hplain hurl operation
    have hsame : url.host? = endpoint.host? := by rw [host?, host?, hauthority]
    exact ⟨endpoint, host, hendpoint, hscheme, hauthority, hsame.trans hhost, hhost, hrest⟩
  · obtain ⟨endpoint, hendpoint, hauthority, hpath⟩ :=
      parse_endpoint_of_query_or_fragment hurl hmarked operation
    refine ⟨endpoint, hendpoint, hauthority, hpath, ?_⟩
    rw [hpath]
    exact (trimBase_append_endpointPath_ne _ operation).symm
  · exact scheme_endpoint hurl

/-- A base with a user, dots and slashes that is plain all the same. -/
def sharedBase : String := "http://reader@127.0.0.1:8080/./main//"

def sharedUrl : Url where
  scheme := "http".toList
  authority := some ⟨"reader".toList, "127.0.0.1".toList, some 8080⟩
  path := .segments ["main".toList, [], []]
  query := none
  fragment := none

theorem isPlainBase_sharedBase : IsPlainBase sharedBase sharedUrl where
  web := .inl rfl
  query := rfl
  fragment := rfl
  notBlank := by
    have hlast : (withoutBreaks sharedBase.toList).getLast? = some '/' := by decide +kernel
    rw [hlast]
    rintro _ ⟨⟩
    rfl
  name := ⟨["http:".toList, [], "reader@127.0.0.1:8080".toList, ['.']], "main".toList,
    by decide +kernel⟩

theorem stats_stand_below_shared_base :
    ({ restBaseUrl := sharedBase } : Config).validate = .ok () ∧
      ∃ endpoint, parse (endpointText sharedBase .stats).toList = .ok endpoint ∧
        endpoint.host? = some "127.0.0.1".toList ∧
        String.ofList endpoint.path.text = "/main/v1/stats" := by
  have hvalid : ({ restBaseUrl := sharedBase } : Config).validate = .ok () := by decide +kernel
  have hread : parse sharedBase.toList = .ok sharedUrl := by decide +kernel
  obtain ⟨url, hurl, hendpoints⟩ := endpoints_stand_below_plain_bases hvalid
  obtain rfl := Except.ok.inj (hread.symm.trans hurl)
  obtain ⟨endpoint, host, hendpoint, -, -, hhost, hsameHost, -, -, hpath⟩ :=
    (hendpoints .stats).1 isPlainBase_sharedBase
  have htext : trimBase (String.ofList sharedUrl.path.text) ++ endpointPath .stats =
      "/main/v1/stats" := by decide +kernel
  exact ⟨hvalid, endpoint, hendpoint, hsameHost.trans hhost.symm, hpath.trans htext⟩

/-- A base that passes the check may not be usable: a blank behind it becomes part of the port, what
stands before a port is read as a scheme, and a query takes the path in. -/
theorem valid_bases_may_be_unusable :
    (({ restBaseUrl := "http://127.0.0.1:1 " } : Config).validate = .ok () ∧
      parse (endpointText "http://127.0.0.1:1 " .stats).toList = .error .invalidPort) ∧
    (({ restBaseUrl := "localhost:11023" } : Config).validate = .ok () ∧
      (parse (endpointText "localhost:11023" .stats).toList).toOption.map (·.scheme) =
        some "localhost".toList) ∧
    (({ restBaseUrl := "http://127.0.0.1:1/x?y" } : Config).validate = .ok () ∧
      (parse (endpointText "http://127.0.0.1:1/x?y" .stats).toList).toOption.map (·.path.text) =
        some "/x".toList) := by
  decide +kernel

end Rest

end DocBridge
