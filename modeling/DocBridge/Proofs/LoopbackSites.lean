import DocBridge.Proofs.EncodedUrls
import DocBridge.Proofs.RestExchanges

/-!
# Stores on this machine

Whatever port a store listens on, the endpoints below its address on the loopback can be reached:
the address is read as the URL that it looks like, and requests can be sent to that.
-/

namespace DocBridge.Rest

/-- The address of a store that listens on a port of this machine. -/
def loopbackBase (port : Nat) : String := "http://127.0.0.1:" ++ toString port

/-- The authority in it, from which the usual port is left out. -/
def loopbackAuthority (port : Nat) : Url.Authority where
  host := "127.0.0.1".toList
  port := if port = 80 then none else some port

def loopbackUrl (port : Nat) (operation : Operation) : Url where
  scheme := "http".toList
  authority := some (loopbackAuthority port)
  path := .segments ((splitAll (· == '/') (endpointPath operation).toList).drop 1)
  query := none
  fragment := none

/-! ## Digits -/

theorem foldlM_of_isDecimal {text : List Char}
    (h : ∀ character ∈ text, Digit.isDecimal character = true) (value : Nat) :
    text.foldlM (fun value character => (value * 10 + ·) <$> Digit.inBase? 10 character) value =
      some (Nat.ofDigitChars 10 text value) := by
  induction text generalizing value with
  | nil => rfl
  | cons character rest ih =>
    have hcharacter := h character List.mem_cons_self
    have hbounds := Digit.isDecimal_iff.1 hcharacter
    have hzero : '0'.toNat = 0x30 := rfl
    have hdigit : Digit.inBase? 10 character = some (character.toNat - '0'.toNat) := by
      rw [Digit.inBase?, Digit.value?, if_pos hcharacter, Option.filter_some, if_pos]
      exact decide_eq_true (by omega)
    have hrest := ih (fun other hother => h other (List.mem_cons_of_mem _ hother))
      (value * 10 + (character.toNat - '0'.toNat))
    rw [List.foldlM_cons, hdigit, Nat.ofDigitChars_cons, Nat.mul_comm]
    rw [Nat.mul_comm] at hrest
    exact hrest

theorem number?_toDigits (n : Nat) : Digit.number? 10 (Nat.toDigits 10 n) = some n := by
  have hdigits : ∀ character ∈ Nat.toDigits 10 n, Digit.isDecimal character = true :=
    fun character hcharacter => Json.Outline.NumberPlace.isDecimal_of_mem_toDigits hcharacter
  rw [Digit.number?, foldlM_of_isDecimal hdigits,
    Nat.ofDigitChars_ten_toDigits]

/-- A port is read back from its digits. -/
theorem port?_toDigits {port : Nat} (h : port < 65536) :
    Url.port? (Nat.toDigits 10 port) = .ok (some port, []) := by
  have hdigits : ∀ character ∈ Nat.toDigits 10 port, Digit.isDecimal character = true :=
    fun character hcharacter => Json.Outline.NumberPlace.isDecimal_of_mem_toDigits hcharacter
  have htake := List.takeWhile_eq_self_iff.2 hdigits
  have hdrop := List.dropWhile_eq_nil_iff.2 hdigits
  have hnonempty : (Nat.toDigits 10 port).isEmpty = false :=
    List.isEmpty_eq_false_iff.2 Nat.toDigits_ne_nil
  unfold Url.port?
  simp only [htake, hdrop, hnonempty, number?_toDigits, h, if_true, Bool.false_eq_true, if_false]

/-! ## Characters -/

def isPlainChar (character : Char) : Bool :=
  character.isAlphanum || "-./:".toList.contains character

theorem all_isPlainChar_path (operation : Operation) :
    (endpointPath operation).toList.all isPlainChar = true := by
  cases operation <;> rfl

theorem all_isPlainChar_digits (port : Nat) : (Nat.toDigits 10 port).all isPlainChar = true := by
  rw [List.all_eq_true]
  intro character hcharacter
  have hdigit : character.isDigit = true :=
    Nat.isDigit_of_mem_toDigits (by decide) (by decide) hcharacter
  simp [isPlainChar, Char.isAlphanum, hdigit]

theorem all_isPlainChar_address (port : Nat) (operation : Operation) :
    ("//127.0.0.1:".toList ++ (Nat.toDigits 10 port ++ (endpointPath operation).toList)).all
      isPlainChar = true := by
  rw [List.all_append, List.all_append, all_isPlainChar_digits, all_isPlainChar_path]
  rfl

theorem beq_eq_false_of_isPlainChar {text : List Char}
    (h : text.all isPlainChar = true) (other : Char)
    (hother : isPlainChar other = false) : ∀ character ∈ text, (character == other) = false := by
  intro character hcharacter
  rw [beq_eq_false_iff_ne]
  rintro rfl
  rw [List.all_eq_true.1 h character hcharacter] at hother
  cases hother

theorem isUrlChar_of_isPlainChar {text : List Char} (h : text.all isPlainChar = true) :
    ∀ character ∈ text, Url.isUrlChar character = true := by
  intro character hcharacter
  have hmarks : "-./:".toList.all Url.isUrlChar = true := rfl
  rcases Bool.or_eq_true_iff.1 (List.all_eq_true.1 h character hcharacter) with
    halphanumeric | hmark
  · apply Url.isUrlChar_of_isNameChar
    rw [Url.isNameChar, halphanumeric, Bool.true_or]
  · exact List.all_eq_true.1 hmarks character (List.contains_iff_mem.1 hmark)

theorem not_isAnySlash_of_isDecimal {character : Char} (h : Digit.isDecimal character = true) :
    Url.isAnySlash character = false := by
  have hne : ∀ other, Digit.isDecimal other = false → character ≠ other := by
    rintro other hother rfl
    rw [h] at hother
    cases hother
  simp [Url.isAnySlash, hne '/' rfl, hne '\\' rfl]

/-! ## Reading -/

theorem trimBase_of_getLast?_ne {base : String} (h : base.toList.getLast? ≠ some '/') :
    trimBase base = base := by
  have hkept : base.toList.reverse.dropWhile (fun character => decide (character = '/')) =
      base.toList.reverse := by
    rw [List.getLast?_eq_head?_reverse] at h
    cases hreverse : base.toList.reverse with
    | nil => rfl
    | cons last rest =>
      have hlast : last ≠ '/' := by simpa [hreverse] using h
      rw [List.dropWhile_cons_of_neg (by simpa using hlast)]
  rw [trimBase, hkept, List.reverse_reverse, String.ofList_toList]

theorem toList_toString (n : Nat) : (toString n).toList = Nat.toDigits 10 n := by
  rw [Nat.toString_eq_ofList_toDigits, String.toList_ofList]

theorem toList_loopbackBase (port : Nat) :
    (loopbackBase port).toList = "http://127.0.0.1:".toList ++ Nat.toDigits 10 port := by
  change ("http://127.0.0.1:" ++ toString port).toList = _
  rw [String.toList_append, toList_toString port]

theorem trimBase_loopbackBase (port : Nat) : trimBase (loopbackBase port) = loopbackBase port := by
  apply trimBase_of_getLast?_ne
  rw [toList_loopbackBase, List.getLast?_append_of_ne_nil _ Nat.toDigits_ne_nil]
  intro hlast
  have hmem : '/' ∈ Nat.toDigits 10 port := List.mem_of_getLast? hlast
  have hdigit := Json.Outline.NumberPlace.isDecimal_of_mem_toDigits hmem
  cases hdigit

theorem readAuthority_loopback {port : Nat} (h : port < 65536) (atEnd : Bool) :
    Url.readAuthority (.special 80) ("127.0.0.1:".toList ++ Nat.toDigits 10 port) atEnd =
      .ok (loopbackAuthority port, []) := by
  have hplain : ("127.0.0.1:".toList ++ Nat.toDigits 10 port).all isPlainChar = true := by
    rw [List.all_append, all_isPlainChar_digits]
    rfl
  have huser := splitLast_of_forall_not (beq_eq_false_of_isPlainChar hplain '@' rfl)
  have hsplit : Url.splitPort false ("127.0.0.1:".toList ++ Nat.toDigits 10 port) =
      ("127.0.0.1".toList, some (Nat.toDigits 10 port)) := rfl
  have hhost : Url.hostOfKind (.special 80) "127.0.0.1".toList = .ok "127.0.0.1".toList := by
    decide
  have hport := port?_toDigits h
  have hdefault : Url.SchemeKind.special 80 = .special port ↔ port = 80 := by
    rw [Url.SchemeKind.special.injEq]
    exact eq_comm
  unfold Url.readAuthority
  simp only [huser, hsplit, hhost, hport, Option.getD_none, Option.getD_some]
  rw [loopbackAuthority]
  simp only [← hdefault]
  rfl

theorem withAuthority_loopback {port : Nat} (h : port < 65536) (operation : Operation) :
    Url.withAuthority (.special 80) ("127.0.0.1:".toList ++
        (Nat.toDigits 10 port ++ (endpointPath operation).toList)) true =
      .ok (some (loopbackAuthority port), (loopbackUrl port operation).path) := by
  have hslash : ∀ character ∈ "127.0.0.1:".toList ++ Nat.toDigits 10 port,
      (!Url.SchemeKind.isSlash (.special 80) character) = true := by
    rw [List.forall_mem_append]
    constructor
    · exact List.all_eq_true.1 rfl
    · intro character hcharacter
      have hdigit := Json.Outline.NumberPlace.isDecimal_of_mem_toDigits hcharacter
      exact congrArg (!·) (not_isAnySlash_of_isDecimal hdigit)
  have htake : (endpointPath operation).toList.takeWhile
      (fun character => !Url.SchemeKind.isSlash (.special 80) character) = [] := by
    cases operation <;> rfl
  have hdrop : (endpointPath operation).toList.dropWhile
      (fun character => !Url.SchemeKind.isSlash (.special 80) character) =
        (endpointPath operation).toList := by
    cases operation <;> rfl
  have hpath : Url.pathAfterAuthority (.special 80) (endpointPath operation).toList =
      (loopbackUrl port operation).path := by
    cases operation <;> rfl
  rw [← List.append_assoc, Url.withAuthority, List.takeWhile_append_of_pos hslash,
    List.dropWhile_append_of_pos hslash, htake, hdrop, List.append_nil, readAuthority_loopback h]
  simp only [bind, Except.bind, List.nil_append, hpath]
  rfl

theorem hierarchy_loopback {port : Nat} (h : port < 65536) (operation : Operation) :
    Url.hierarchy (.special 80) ("//127.0.0.1:".toList ++
        (Nat.toDigits 10 port ++ (endpointPath operation).toList)) true =
      .ok (some (loopbackAuthority port), (loopbackUrl port operation).path) := by
  have hbreaks := Url.withoutBreaks_of_isUrlChar
    (isUrlChar_of_isPlainChar (all_isPlainChar_address port operation))
  have hslashes : ("//127.0.0.1:".toList ++
      (Nat.toDigits 10 port ++ (endpointPath operation).toList)).dropWhile
        (Url.SchemeKind.isSlash (.special 80)) =
          "127.0.0.1:".toList ++ (Nat.toDigits 10 port ++ (endpointPath operation).toList) := rfl
  unfold Url.hierarchy
  simp only [hbreaks, hslashes, withAuthority_loopback h]

/-- The address of an endpoint is read as its URL. -/
theorem parse_loopback {port : Nat} (h : port < 65536) (operation : Operation) :
    Url.parse (endpointText (loopbackBase port) operation).toList =
      .ok (loopbackUrl port operation) := by
  obtain ⟨rest, hrest⟩ : ∃ rest, "//127.0.0.1:".toList ++
      (Nat.toDigits 10 port ++ (endpointPath operation).toList) = rest := ⟨_, rfl⟩
  have htext : (endpointText (loopbackBase port) operation).toList = "http:".toList ++ rest := by
    rw [endpointText, trimBase_loopbackBase, String.toList_append, toList_loopbackBase, ← hrest]
    rfl
  have hplain : rest.all isPlainChar = true := hrest ▸ all_isPlainChar_address port operation
  have hwhole : ("http:".toList ++ rest).all isPlainChar = true := by
    rw [List.all_append, hplain]
    rfl
  have hblank : ∀ character ∈ "http:".toList ++ rest, Url.isOuterBlank character = false :=
    fun character hmem => (Url.isUrlChar_spec (isUrlChar_of_isPlainChar hwhole character hmem)).1
  have hscheme : Url.splitScheme? ("http:".toList ++ rest) = some ("http".toList, rest) := rfl
  have hkind : Url.SchemeKind.ofScheme "http".toList = .special 80 := rfl
  have hfragment := splitFirst_of_forall_not (beq_eq_false_of_isPlainChar hplain '#' rfl)
  have hquery := splitFirst_of_forall_not (beq_eq_false_of_isPlainChar hplain '?' rfl)
  have hhierarchy := hierarchy_loopback h operation
  rw [hrest] at hhierarchy
  rw [htext, Url.parse, trim_of_forall_not hblank, hscheme]
  simp only [hfragment, hquery, hkind, Option.isNone_none, Bool.and_true, hhierarchy]
  rfl

/-! ## Sending -/

theorem length_encode_of_isDecimal {text : List Char}
    (h : ∀ character ∈ text, Digit.isDecimal character = true) :
    (Utf8.encode text).length = text.length := by
  induction text with
  | nil => rfl
  | cons character rest ih =>
    have hbounds := Digit.isDecimal_iff.1 (h character List.mem_cons_self)
    have hrest := ih fun other hother => h other (List.mem_cons_of_mem character hother)
    rw [Utf8.encode_cons, Utf8.encodeChar_of_lt (by omega), List.length_append, hrest,
      List.length_singleton, List.length_cons, Nat.add_comm]

def portBytes (port : Nat) : Bytes :=
  if port = 80 then [] else 0x3A :: Utf8.encode (Nat.toDigits 10 port)

theorem isDecimalByte_of_mem_digits {port : Nat} :
    ∀ byte ∈ Utf8.encode (Nat.toDigits 10 port), Digit.isDecimalByte byte = true :=
  Number.isDecimalByte_of_mem_encode
    fun _ hcharacter => Json.Outline.NumberPlace.isDecimal_of_mem_toDigits hcharacter

theorem ne_of_isDecimalByte {byte : UInt8} (h : Digit.isDecimalByte byte = true) (other : UInt8)
    (hother : Digit.isDecimalByte other = false) : byte ≠ other := by
  rintro rfl
  rw [h] at hother
  cases hother

/-- Digits are nothing special in an authority. -/
theorem foldlM_step_of_isDecimalByte {bytes : Bytes}
    (h : ∀ byte ∈ bytes, Digit.isDecimalByte byte = true) (authority : HttpUri.Authority) :
    bytes.foldlM HttpUri.Authority.step authority = some authority := by
  induction bytes with
  | nil => rfl
  | cons byte rest ih =>
    have hbyte := h byte List.mem_cons_self
    have hrest := ih fun other hother => h other (List.mem_cons_of_mem byte hother)
    have hstep : authority.step byte = some authority := by
      have hne := ne_of_isDecimalByte hbyte
      simp [HttpUri.Authority.step, hne 0x3A rfl, hne 0x5B rfl, hne 0x5D rfl, hne 0x40 rfl,
        hne 0x25 rfl]
    rw [List.foldlM_cons, hstep]
    exact hrest

theorem isAuthorityByte_of_isDecimalByte {byte : UInt8} (h : Digit.isDecimalByte byte = true) :
    HttpUri.isAuthorityByte byte = true := by
  have halphanumeric : HttpUri.isAlphanumeric byte = true := by
    rw [HttpUri.isAlphanumeric, Bool.or_eq_true, Bool.or_eq_true]
    exact .inl (.inl h)
  rw [HttpUri.isAuthorityByte, halphanumeric, Bool.true_or]

theorem isAuthority_loopback (port : Nat) :
    HttpUri.isAuthority (utf8Bytes "127.0.0.1" ++ portBytes port) = true := by
  rw [portBytes]
  split
  · decide
  have hall : (utf8Bytes "127.0.0.1" ++ 0x3A :: Utf8.encode (Nat.toDigits 10 port)).all
      HttpUri.isAuthorityByte = true := by
    rw [List.all_append, List.all_cons, Bool.and_eq_true, Bool.and_eq_true, List.all_eq_true]
    refine ⟨List.all_eq_true.1 rfl, rfl, ?_⟩
    rw [List.all_eq_true]
    intro byte hbyte
    exact isAuthorityByte_of_isDecimalByte (isDecimalByte_of_mem_digits byte hbyte)
  have hfold : (utf8Bytes "127.0.0.1" ++ 0x3A :: Utf8.encode (Nat.toDigits 10 port)).foldlM
      HttpUri.Authority.step {} = some { colons := 1 } := by
    rw [List.foldlM_append]
    exact foldlM_step_of_isDecimalByte isDecimalByte_of_mem_digits { colons := 1 }
  have hlast : (utf8Bytes "127.0.0.1" ++ 0x3A :: Utf8.encode (Nat.toDigits 10 port)).getLast? ≠
      some 0x40 := by
    rw [List.getLast?_append_of_ne_nil _ (List.cons_ne_nil _ _)]
    intro hlast
    rcases List.mem_cons.1 (List.mem_of_getLast? hlast) with hcolon | hdigit
    · exact absurd hcolon (by decide)
    · exact ne_of_isDecimalByte (isDecimalByte_of_mem_digits _ hdigit) 0x40 rfl rfl
  simp only [HttpUri.isAuthority, hall, hfold]
  simpa using hlast

theorem text_loopbackUrl (port : Nat) (operation : Operation) :
    (loopbackUrl port operation).path.text = (endpointPath operation).toList := by
  cases operation <;> rfl

theorem utf8Bytes_loopbackUrl (port : Nat) (operation : Operation) :
    utf8Bytes (loopbackUrl port operation).toString = utf8Bytes "http://" ++
      (utf8Bytes "127.0.0.1" ++ portBytes port ++ utf8Bytes (endpointPath operation)) := by
  have hauthority : (loopbackAuthority port).text = "127.0.0.1".toList ++
      (if port = 80 then [] else ':' :: Nat.toDigits 10 port) := by
    rw [loopbackAuthority, Url.Authority.text]
    split <;> rfl
  have hport : Utf8.encode (if port = 80 then [] else ':' :: Nat.toDigits 10 port) =
      portBytes port := by
    rw [portBytes]
    split <;> rfl
  have htext : (loopbackUrl port operation).text = "http://".toList ++
      ((loopbackAuthority port).text ++ (endpointPath operation).toList) := by
    rw [← text_loopbackUrl port]
    simp [Url.text, Url.head, loopbackUrl]
  rw [utf8Bytes, Url.toString, String.toList_ofList, htext, hauthority, Utf8.encode_append,
    Utf8.encode_append, Utf8.encode_append, hport]
  rfl

theorem length_loopbackUrl_le {port : Nat} (h : port < 65536) (operation : Operation) :
    (utf8Bytes (loopbackUrl port operation).toString).length ≤ HttpUri.maxLength := by
  have hdigits : (Utf8.encode (Nat.toDigits 10 port)).length ≤ 5 := by
    rw [length_encode_of_isDecimal fun _ hcharacter =>
      Json.Outline.NumberPlace.isDecimal_of_mem_toDigits hcharacter]
    exact (Nat.length_toDigits_le_iff (by decide) (by decide)).2 (Nat.lt_trans h (by decide))
  have hport : (portBytes port).length ≤ 6 := by
    rw [portBytes]
    split
    · decide
    · exact Nat.succ_le_succ hdigits
  have hpath : (utf8Bytes (endpointPath operation)).length ≤ 100 := by
    cases operation <;> decide
  have hscheme : (utf8Bytes "http://").length = 7 := rfl
  have hhost : (utf8Bytes "127.0.0.1").length = 9 := rfl
  rw [utf8Bytes_loopbackUrl, List.length_append, List.length_append, List.length_append, hscheme,
    hhost, HttpUri.maxLength]
  omega

theorem not_endsAuthority_of_isAuthorityByte (byte : UInt8) :
    HttpUri.isAuthorityByte byte = true → (!HttpUri.endsAuthority byte) = true := by
  revert byte
  apply Url.Form.forall_byte
  decide +kernel

/-- A client accepts the URLs of this address, whatever the port is. -/
theorem isSendable_loopbackUrl {port : Nat} (h : port < 65536) (operation : Operation) :
    isSendable (loopbackUrl port operation) = true := by
  have hscheme : ∀ rest, HttpUri.behindScheme? (utf8Bytes "http://" ++ rest) = some rest :=
    fun _ => rfl
  have hauthority : ∀ byte ∈ utf8Bytes "127.0.0.1" ++ portBytes port,
      (!HttpUri.endsAuthority byte) = true := by
    intro byte hbyte
    have hall := isAuthority_loopback port
    simp only [HttpUri.isAuthority, Bool.and_eq_true] at hall
    have hpart := List.all_eq_true.1 hall.1.1.2 byte hbyte
    exact not_endsAuthority_of_isAuthorityByte byte hpart
  have htake : (utf8Bytes (endpointPath operation)).takeWhile (!HttpUri.endsAuthority ·) = [] := by
    cases operation <;> rfl
  have hdrop : (utf8Bytes (endpointPath operation)).dropWhile (!HttpUri.endsAuthority ·) =
      utf8Bytes (endpointPath operation) := by
    cases operation <;> rfl
  have hpath : HttpUri.isPathAndQuery (utf8Bytes (endpointPath operation)) = true := by
    cases operation <;> decide
  have hisPath : HttpUri.isPath (loopbackUrl port operation).toString = false := by
    rw [HttpUri.isPath, Url.toString, String.toList_ofList]
    rfl
  have hlength := length_loopbackUrl_le h operation
  rw [utf8Bytes_loopbackUrl] at hlength
  have hvalid : HttpUri.isValid (loopbackUrl port operation).toString = true := by
    rw [HttpUri.isValid, hisPath, utf8Bytes_loopbackUrl]
    simp only [hlength, hscheme, List.takeWhile_append_of_pos hauthority,
      List.dropWhile_append_of_pos hauthority, htake, hdrop, hpath, List.append_nil,
      isAuthority_loopback]
    rfl
  rw [isSendable, hvalid]
  rfl

def Site.loopback (port : Nat) (h : port < 65536) : Site where
  base := loopbackBase port
  url := loopbackUrl port
  parsed := parse_loopback h
  hosted _ := rfl
  sendable := isSendable_loopbackUrl h
  path := text_loopbackUrl port
  query _ := rfl
  fragment _ := rfl

end DocBridge.Rest
