import DocBridge.Proofs.Utf8Texts
import DocBridge.Url.Form
import DocBridge.Url.HttpUri

/-!
# Queries are read back

The pair that a query was made of is read from it again, whatever the texts in it hold.  An address
with such a query behind it is an address as long as it does not become too long.
-/

namespace DocBridge.Url

/-! ## Percent encoding -/

theorem byteValue?_upper : ∀ digit : Fin 16,
    Digit.byteValue? (UInt8.ofNat (Digit.upper digit).toNat) = some digit.val := by decide

theorem upper_ascii : ∀ digit : Fin 16, (Digit.upper digit).toNat < 0x80 := by decide

theorem encode_percentByte (byte : UInt8) :
    Utf8.encode (percentByte byte) =
      [0x25, UInt8.ofNat (Digit.upper (byte.toNat / 16)).toNat,
        UInt8.ofNat (Digit.upper (byte.toNat % 16)).toNat] := by
  have hbyte := byte.toNat_lt
  have hhigh := upper_ascii ⟨byte.toNat / 16, by omega⟩
  have hlow := upper_ascii ⟨byte.toNat % 16, by omega⟩
  simp only [percentByte, Utf8.encode_cons, Utf8.encodeChar_of_lt hhigh,
    Utf8.encodeChar_of_lt hlow]
  rfl

/-- An encoded byte is read as the byte. -/
theorem percentDecode_percentByte (byte : UInt8) (rest : Bytes) :
    percentDecode (Utf8.encode (percentByte byte) ++ rest) = byte :: percentDecode rest := by
  have hbyte := byte.toNat_lt
  have hhigh := byteValue?_upper ⟨byte.toNat / 16, by omega⟩
  have hlow := byteValue?_upper ⟨byte.toNat % 16, by omega⟩
  have hvalue : UInt8.ofNat (byte.toNat / 16 * 16 + byte.toNat % 16) = byte := by
    rw [Nat.div_add_mod', UInt8.ofNat_toNat]
  simp only at hhigh hlow
  rw [encode_percentByte]
  simp only [List.cons_append, List.nil_append, percentDecode, hhigh, hlow, hvalue]

theorem percentDecode_cons {byte : UInt8} (h : byte ≠ 0x25) (rest : Bytes) :
    percentDecode (byte :: rest) = byte :: percentDecode rest := by
  rw [percentDecode.eq_def]
  split
  · rename_i heq
    exact absurd (List.cons.inj heq).1 h
  · rename_i heq
    obtain ⟨rfl, rfl⟩ := List.cons.inj heq
    rfl
  · rename_i heq
    cases heq

end DocBridge.Url

namespace DocBridge.Url.Form

/-! ## Pairs -/

def written (byte : UInt8) : Bytes := Utf8.encode (encodeByte byte)

/-- A plus sign as the space that it stands for. -/
def withSpace (byte : UInt8) : UInt8 := if byte = 0x2B then 0x20 else byte

theorem forall_byte {P : UInt8 → Prop} (h : ∀ code : Fin 256, P (UInt8.ofNat code)) (byte : UInt8) :
    P byte := by
  have hbyte := h ⟨byte.toNat, byte.toNat_lt⟩
  rwa [UInt8.ofNat_toNat] at hbyte

/-- No written byte separates pairs or names from values, and each may stand in a query. -/
theorem written_bytes (byte : UInt8) : ∀ part ∈ written byte,
    part ≠ 0x26 ∧ part ≠ 0x3D ∧ HttpUri.isQueryByte part = true := by
  -- over the list, as deciding it of every part there could be takes all pairs of bytes
  have hall : (written byte).all (fun part =>
      part ≠ 0x26 ∧ part ≠ 0x3D ∧ HttpUri.isQueryByte part = true) = true := by
    revert byte
    apply forall_byte
    decide +kernel
  exact fun part hpart => of_decide_eq_true (List.all_eq_true.1 hall part hpart)

theorem isPlain_ascii (byte : UInt8) : isPlain byte = true →
    written byte = [byte] ∧ byte ≠ 0x25 ∧ byte ≠ 0x2B := by
  revert byte
  apply forall_byte
  decide +kernel

theorem percent_no_plus (byte : UInt8) :
    (Utf8.encode (percentByte byte)).map withSpace = Utf8.encode (percentByte byte) := by
  revert byte
  apply forall_byte
  decide +kernel

/-- A byte is read back, whether it is written as it is, as a plus sign or encoded. -/
theorem percentDecode_written (byte : UInt8) (rest : Bytes) :
    percentDecode ((written byte).map withSpace ++ rest) = byte :: percentDecode rest := by
  by_cases hplain : isPlain byte = true
  · obtain ⟨hwritten, hpercent, hplus⟩ := isPlain_ascii byte hplain
    rw [hwritten, List.map_singleton, withSpace, if_neg hplus, List.singleton_append,
      percentDecode_cons hpercent]
  by_cases hspace : byte = 0x20
  · subst hspace
    exact percentDecode_cons (by decide) rest
  · rw [written, encodeByte, if_neg hplain, if_neg hspace, percent_no_plus,
      percentDecode_percentByte]

theorem encode_encodeText (text : String) :
    Utf8.encode (encodeText text) = (utf8Bytes text).flatMap written := by
  rw [encodeText, Utf8.encode, List.flatMap_assoc]
  rfl

/-- An encoded name or value is read as the text. -/
theorem decodeText_encodeText (text : String) :
    decodeText (Utf8.encode (encodeText text)) = text := by
  have hbytes : ∀ bytes : Bytes,
      percentDecode ((bytes.flatMap written).map withSpace) = bytes := by
    intro bytes
    induction bytes with
    | nil => rfl
    | cons byte rest ih =>
      rw [List.flatMap_cons, List.map_append, percentDecode_written, ih]
  change String.ofList (Utf8.decodeLossy (percentDecode
    ((Utf8.encode (encodeText text)).map withSpace))) = text
  rw [encode_encodeText, hbytes, utf8Bytes, Utf8.decodeLossy_encode, String.ofList_toList]

theorem encode_encodePair (pair : String × String) :
    Utf8.encode (encodePair pair) =
      (utf8Bytes pair.1).flatMap written ++ 0x3D :: (utf8Bytes pair.2).flatMap written := by
  rw [encodePair, Utf8.encode_append, Utf8.encode_cons, encode_encodeText, encode_encodeText]
  rfl

theorem forall_mem_flatMap_written {P : UInt8 → Prop} (h : ∀ byte, ∀ part ∈ written byte, P part)
    (bytes : Bytes) : ∀ part ∈ bytes.flatMap written, P part := by
  intro part hpart
  obtain ⟨byte, -, hmem⟩ := List.mem_flatMap.1 hpart
  exact h byte part hmem

/-- The bytes of an encoded pair may all stand in a query. -/
theorem isQueryByte_of_mem_encodePair {pair : String × String} {byte : UInt8}
    (h : byte ∈ Utf8.encode (encodePair pair)) : HttpUri.isQueryByte byte = true := by
  have hquery : ∀ bytes : Bytes, ∀ part ∈ bytes.flatMap written,
      HttpUri.isQueryByte part = true :=
    forall_mem_flatMap_written fun byte part hpart => (written_bytes byte part hpart).2.2
  rw [encode_encodePair, List.mem_append, List.mem_cons] at h
  rcases h with h | rfl | h
  · exact hquery _ byte h
  · decide
  · exact hquery _ byte h

/-- Pairs on both sides of an ampersand are read apart. -/
theorem decode_append_cons (first second : Bytes) :
    decode (first ++ 0x26 :: second) = decode first ++ decode second := by
  have hpieces : splitAll (· == 0x26) (first ++ 0x26 :: second) =
      splitAll (· == 0x26) first ++ splitAll (· == 0x26) second :=
    splitAll_append_cons rfl first second
  rw [decode, hpieces, List.filter_append, List.map_append, decode, decode]

/-- A name without the two marks and a value without an ampersand are read as one pair. -/
theorem decode_pair {name value : Bytes} (hname : ∀ byte ∈ name, byte ≠ 0x26 ∧ byte ≠ 0x3D)
    (hvalue : ∀ byte ∈ value, byte ≠ 0x26) :
    decode (name ++ 0x3D :: value) = [(decodeText name, decodeText value)] := by
  have hpieces : splitAll (· == 0x26) (name ++ 0x3D :: value) = [name ++ 0x3D :: value] := by
    apply splitAll_of_forall_not
    intro byte hbyte
    rw [beq_eq_false_iff_ne]
    rcases List.mem_append.1 hbyte with hbyte | hbyte
    · exact (hname byte hbyte).1
    · rcases List.mem_cons.1 hbyte with rfl | hbyte
      · decide
      · exact hvalue byte hbyte
  have hequals : splitFirst (· == 0x3D) (name ++ 0x3D :: value) = (name, some value) :=
    splitFirst_append_cons rfl fun byte hbyte => beq_eq_false_iff_ne.2 (hname byte hbyte).2
  have hfilled : (name ++ 0x3D :: value).isEmpty = false := by simp
  simp [decode, hpieces, hfilled, decodePair, hequals]

/-- A query of one pair is read as the pair. -/
theorem decode_encodePair (pair : String × String) :
    decode (Utf8.encode (encodePair pair)) = [pair] := by
  have hsafe : ∀ bytes : Bytes, ∀ part ∈ bytes.flatMap written, part ≠ 0x26 ∧ part ≠ 0x3D :=
    forall_mem_flatMap_written fun byte part hpart =>
      ⟨(written_bytes byte part hpart).1, (written_bytes byte part hpart).2.1⟩
  rw [encode_encodePair, decode_pair (hsafe _) fun part hpart => (hsafe _ part hpart).1,
    ← encode_encodeText, ← encode_encodeText, decodeText_encodeText, decodeText_encodeText]

end DocBridge.Url.Form

namespace DocBridge.HttpUri

/-! ## Addresses -/

section Stops

variable {p : UInt8 → Bool} {stop : UInt8}

theorem takeWhile_append_stop (h : p stop = false) (before after : Bytes) :
    (before ++ stop :: after).takeWhile p = before.takeWhile p := by
  induction before with
  | nil => simp [h]
  | cons byte rest ih => simp only [List.cons_append, List.takeWhile_cons, ih]

theorem dropWhile_append_stop (h : p stop = false) (before after : Bytes) :
    (before ++ stop :: after).dropWhile p = before.dropWhile p ++ stop :: after := by
  induction before with
  | nil => simp [h]
  | cons byte rest ih =>
    simp only [List.cons_append, List.dropWhile_cons, ih]
    split <;> rfl

end Stops

/-- A query behind a path, or behind another query. -/
theorem isPathAndQuery_append {text query : Bytes} (h : isPathAndQuery text = true)
    (hquery : ∀ byte ∈ query, isQueryByte byte = true) :
    isPathAndQuery (text ++ 0x3F :: query) = true := by
  by_cases hhash : (text.takeWhile (· != 0x23)).length = text.length
  · have htext : text.takeWhile (· != 0x23) = text :=
      (List.takeWhile_prefix _).eq_of_length hhash
    have hnew : (text ++ 0x3F :: query).takeWhile (· != 0x23) =
        text ++ 0x3F :: query.takeWhile (· != 0x23) := by
      rw [List.takeWhile_append, if_pos hhash]
      rfl
    have hbehind : ∀ byte ∈ query.takeWhile (· != 0x23), isQueryByte byte = true :=
      fun byte hbyte => hquery byte ((List.takeWhile_sublist _).subset hbyte)
    simp only [isPathAndQuery, htext, Bool.and_eq_true] at h
    simp only [isPathAndQuery, hnew, Bool.and_eq_true]
    rw [takeWhile_append_stop (p := (· != 0x3F)) rfl, dropWhile_append_stop (p := (· != 0x3F)) rfl]
    refine ⟨h.1, ?_⟩
    cases hrest : text.dropWhile (· != 0x3F) with
    | nil => exact List.all_eq_true.2 hbehind
    | cons mark rest =>
      rw [hrest, List.drop_one, List.tail_cons] at h
      rw [List.cons_append, List.drop_one, List.tail_cons, List.all_append, Bool.and_eq_true]
      exact ⟨h.2, List.all_eq_true.2 (List.forall_mem_cons.2 ⟨by decide, hbehind⟩)⟩
  · simp only [isPathAndQuery, List.takeWhile_append, hhash, if_false]
    exact h

/-- A query does not reach into the scheme. -/
theorem behindScheme?_append {text rest : Bytes} (h : behindScheme? text = some rest)
    (query : Bytes) : behindScheme? (text ++ 0x3F :: query) = some (rest ++ 0x3F :: query) := by
  have hscheme : (text ++ 0x3F :: query).takeWhile isSchemeByte = text.takeWhile isSchemeByte :=
    takeWhile_append_stop (by decide) text query
  have hle : (text.takeWhile isSchemeByte).length ≤ text.length :=
    (List.takeWhile_prefix _).length_le
  simp only [behindScheme?, Bool.and_eq_true, decide_eq_true_eq] at h ⊢
  rw [hscheme, List.drop_append_of_le_length hle]
  split at h
  · rename_i hslashes
    have hbefore := List.isPrefixOf_iff_prefix.1 hslashes.2
    have hlength : (text.takeWhile isSchemeByte).length + 3 ≤ text.length := by
      have hthree := hbefore.length_le
      rw [List.length_drop] at hthree
      have hslashes : (utf8Bytes "://").length = 3 := rfl
      omega
    rw [if_pos ⟨hslashes.1, List.isPrefixOf_iff_prefix.2 (hbefore.trans (List.prefix_append _ _))⟩,
      List.drop_append_of_le_length hlength]
    exact congrArg some (congrArg (· ++ 0x3F :: query) (Option.some.inj h))
  · cases h

/-- An absolute address or a path is still one with a query behind it, unless that makes it too
long. -/
theorem isValid_append_query {text query : String} (h : isValid text = true)
    (hquery : ∀ byte ∈ utf8Bytes query, isQueryByte byte = true)
    (hlength : (utf8Bytes (text ++ "?" ++ query)).length ≤ maxLength) :
    isValid (text ++ "?" ++ query) = true := by
  have hbytes : utf8Bytes (text ++ "?" ++ query) = utf8Bytes text ++ 0x3F :: utf8Bytes query := by
    simp only [utf8Bytes, String.toList_append, Utf8.encode_append, List.append_assoc]
    rfl
  have hpath : isPath (text ++ "?" ++ query) = isPath text := by
    cases htext : text.toList with
    | nil =>
      rw [String.toList_eq_nil_iff] at htext
      subst htext
      exact absurd h (by decide)
    | cons first rest => simp [isPath, String.toList_append, htext]
  simp only [isValid, Bool.and_eq_true, decide_eq_true_eq] at h ⊢
  refine ⟨hlength, ?_⟩
  rw [hpath, hbytes]
  split
  · rename_i habsolute
    rw [if_pos habsolute] at h
    exact isPathAndQuery_append h.2 hquery
  · rename_i habsolute
    rw [if_neg habsolute] at h
    cases hscheme : behindScheme? (utf8Bytes text) with
    | none =>
      rw [hscheme] at h
      cases h.2
    | some rest =>
      rw [hscheme] at h
      rw [behindScheme?_append hscheme]
      simp only [Bool.and_eq_true] at h ⊢
      rw [takeWhile_append_stop (by decide), dropWhile_append_stop (by decide)]
      exact ⟨h.2.1, isPathAndQuery_append h.2.2 hquery⟩

end DocBridge.HttpUri
