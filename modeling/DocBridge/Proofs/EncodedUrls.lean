import DocBridge.Proofs.QueryTexts
import DocBridge.Resource

/-!
# Encoded URLs

Any text can stand in a URL once its bytes are encoded, all but letters and digits.  A URL whose
host, path and query are spelled in this way is read part by part as it was put together, and every
part stands for the text that was meant.
-/

namespace DocBridge.Url

/-! ## Characters -/

/-- What encoded texts, and the words around them, are written with. -/
def isNameChar (character : Char) : Bool :=
  character.isAlphanum || ['%', '-', '.'].contains character

/-- What words that stand for themselves are written with. -/
def isWordChar (character : Char) : Bool := isNameChar character && character != '%'

def isPairChar (character : Char) : Bool :=
  isNameChar character || ['&', '='].contains character

def isUrlChar (character : Char) : Bool :=
  isPairChar character || [':', '/', '?'].contains character

section Characters

variable {character : Char}

theorem isNameChar_of_isWordChar (h : isWordChar character = true) :
    isNameChar character = true := (Bool.and_eq_true_iff.1 h).1

theorem isPairChar_of_isNameChar (h : isNameChar character = true) :
    isPairChar character = true := by
  rw [isPairChar, h, Bool.true_or]

theorem isUrlChar_of_isPairChar (h : isPairChar character = true) :
    isUrlChar character = true := by
  rw [isUrlChar, h, Bool.true_or]

theorem isUrlChar_of_isNameChar (h : isNameChar character = true) : isUrlChar character = true :=
  isUrlChar_of_isPairChar (isPairChar_of_isNameChar h)

theorem forall_ascii {P : Char → Prop} (h : ∀ code : Fin 0x80, P (Char.ofNat code))
    (hcharacter : character.toNat < 0x80) : P character := by
  have hcode := h ⟨character.toNat, hcharacter⟩
  rwa [Char.ofNat_toNat] at hcode

theorem lt_of_isAlphanum (h : character.isAlphanum = true) : character.toNat < 0x80 := by
  delta Char.isAlphanum Char.isAlpha Char.isUpper Char.isLower Char.isDigit at h
  simp only [Bool.or_eq_true, Bool.and_eq_true, decide_eq_true_eq, ge_iff_le,
    UInt32.le_iff_toNat_le] at h
  have hcapital : 'Z'.val.toNat = 0x5A := rfl
  have hsmall : 'z'.val.toNat = 0x7A := rfl
  have hdigit : '9'.val.toNat = 0x39 := rfl
  change character.val.toNat < 0x80
  omega

theorem lt_of_isUrlChar (h : isUrlChar character = true) : character.toNat < 0x80 := by
  simp only [isUrlChar, isPairChar, isNameChar, Bool.or_eq_true, List.contains_iff_mem,
    List.mem_cons, List.not_mem_nil, or_false] at h
  rcases h with ((halphanumeric | rfl | rfl | rfl) | rfl | rfl) | rfl | rfl | rfl
  · exact lt_of_isAlphanum halphanumeric
  all_goals decide

/-- No character of a URL is a blank or ends a line, and none begins a fragment. -/
theorem isUrlChar_spec (h : isUrlChar character = true) :
    isOuterBlank character = false ∧ isLineBreak character = false ∧ character ≠ '#' := by
  have hascii := lt_of_isUrlChar h
  revert h
  apply forall_ascii _ hascii
  decide

theorem isPairChar_spec (h : isPairChar character = true) :
    character.toNat < 0x80 ∧ isQueryReserved character = false := by
  have hascii := lt_of_isUrlChar (isUrlChar_of_isPairChar h)
  revert h
  apply forall_ascii _ hascii
  decide

/-- Hosts and paths hold the characters of a name as they are. -/
theorem isNameChar_spec (h : isNameChar character = true) :
    character.toNat < 0x80 ∧ isForbiddenInHost character = false ∧
      isControl character = false ∧ isPathReserved character = false := by
  have hascii := lt_of_isUrlChar (isUrlChar_of_isNameChar h)
  revert h
  apply forall_ascii _ hascii
  decide

theorem beq_eq_false_of_isNameChar {other : Char} (h : isNameChar character = true)
    (hother : isNameChar other = false) : (character == other) = false := by
  rw [beq_eq_false_iff_ne]
  rintro rfl
  rw [h] at hother
  cases hother

end Characters

theorem withoutBreaks_of_isUrlChar {text : List Char}
    (h : ∀ character ∈ text, isUrlChar character = true) : withoutBreaks text = text := by
  apply List.filter_eq_self.2
  intro character hcharacter
  rw [(isUrlChar_spec (h character hcharacter)).2.1]
  rfl

/-- None of the bytes of a name separates pairs, or names from values, or words. -/
theorem ne_of_mem_encode {written : List Char}
    (h : ∀ character ∈ written, isNameChar character = true) :
    ∀ byte ∈ Utf8.encode written, byte ≠ 0x26 ∧ byte ≠ 0x3D ∧ byte ≠ 0x2B := by
  intro byte hbyte
  obtain ⟨character, hcharacter, hmem⟩ := List.mem_flatMap.1 hbyte
  have hname := h character hcharacter
  have hascii := (isNameChar_spec hname).1
  rw [Utf8.encodeChar_of_lt hascii, List.mem_singleton] at hmem
  rw [hmem]
  revert hname
  apply forall_ascii _ hascii
  decide

/-! ## Spellings -/

/-- A text and characters that stand for it wherever they are written. -/
structure Spelling where
  text : String
  written : List Char
  plain : ∀ character ∈ written, isNameChar character = true
  read : ∀ rest, percentDecode (Utf8.encode written ++ rest) =
    utf8Bytes text ++ percentDecode rest

/-- A byte as itself if it is a letter or a digit, and encoded otherwise. -/
def strictByte (byte : UInt8) : List Char :=
  if HttpUri.isAlphanumeric byte then [Char.ofNat byte.toNat] else percentByte byte

/-- A text with every byte encoded that is no ASCII letter or digit. -/
def strictText (text : String) : List Char := (utf8Bytes text).flatMap strictByte

theorem isNameChar_of_mem_strictByte (byte : UInt8) :
    ∀ character ∈ strictByte byte, isNameChar character = true := by
  have hall : (strictByte byte).all isNameChar = true := by
    revert byte
    apply Form.forall_byte
    decide +kernel
  exact List.all_eq_true.1 hall

theorem encode_alphanumeric (byte : UInt8) : HttpUri.isAlphanumeric byte = true →
    Utf8.encode [Char.ofNat byte.toNat] = [byte] ∧ byte ≠ 0x25 := by
  revert byte
  apply Form.forall_byte
  decide +kernel

/-- A byte is read back, whether it was written as it is or encoded. -/
theorem percentDecode_strictByte (byte : UInt8) (rest : Bytes) :
    percentDecode (Utf8.encode (strictByte byte) ++ rest) = byte :: percentDecode rest := by
  rw [strictByte]
  split
  · rename_i halphanumeric
    obtain ⟨hself, hpercent⟩ := encode_alphanumeric byte halphanumeric
    rw [hself, List.singleton_append, percentDecode_cons hpercent]
  · exact percentDecode_percentByte byte rest

/-- Only a percent sign stands for something else. -/
theorem percentDecode_encode_of_forall {word : List Char}
    (h : ∀ character ∈ word, isWordChar character = true) (rest : Bytes) :
    percentDecode (Utf8.encode word ++ rest) = Utf8.encode word ++ percentDecode rest := by
  induction word with
  | nil => rfl
  | cons character others ih =>
    obtain ⟨hword, hothers⟩ := List.forall_mem_cons.1 h
    have hascii := (isNameChar_spec (isNameChar_of_isWordChar hword)).1
    have hbyte : UInt8.ofNat character.toNat ≠ 0x25 := by
      revert hword
      apply forall_ascii _ hascii
      decide
    rw [Utf8.encode_cons, Utf8.encodeChar_of_lt hascii, List.singleton_append,
      List.cons_append, percentDecode_cons hbyte, ih hothers, List.cons_append]

theorem utf8Bytes_append (first second : String) :
    utf8Bytes (first ++ second) = utf8Bytes first ++ utf8Bytes second := by
  rw [utf8Bytes, String.toList_append, Utf8.encode_append, utf8Bytes, utf8Bytes]

theorem utf8Bytes_injective {first second : String} (h : utf8Bytes first = utf8Bytes second) :
    first = second := by
  have hread := congrArg ofUtf8? h
  rwa [ofUtf8?_utf8Bytes, ofUtf8?_utf8Bytes, Option.some.injEq] at hread

namespace Spelling

/-- Every text can be spelled. -/
def strict (text : String) : Spelling where
  text := text
  written := strictText text
  plain := by
    intro character hcharacter
    obtain ⟨byte, -, hmem⟩ := List.mem_flatMap.1 hcharacter
    exact isNameChar_of_mem_strictByte byte character hmem
  read := by
    have hbytes : ∀ bytes rest : Bytes,
        percentDecode (Utf8.encode (bytes.flatMap strictByte) ++ rest) =
          bytes ++ percentDecode rest := by
      intro bytes rest
      induction bytes with
      | nil => rfl
      | cons byte others ih =>
        rw [List.flatMap_cons, Utf8.encode_append, List.append_assoc, percentDecode_strictByte,
          ih, List.cons_append]
    exact hbytes (utf8Bytes text)

/-- A word without percent signs stands for itself. -/
def word (text : String) (h : text.toList.all isWordChar = true) : Spelling where
  text := text
  written := text.toList
  plain character hcharacter :=
    isNameChar_of_isWordChar (List.all_eq_true.1 h character hcharacter)
  read := percentDecode_encode_of_forall (List.all_eq_true.1 h)

def append (first second : Spelling) : Spelling where
  text := first.text ++ second.text
  written := first.written ++ second.written
  plain := List.forall_mem_append.2 ⟨first.plain, second.plain⟩
  read rest := by
    rw [Utf8.encode_append, List.append_assoc, first.read, second.read, utf8Bytes_append,
      List.append_assoc]

variable (spelling : Spelling)

theorem percentDecode_written :
    percentDecode (Utf8.encode spelling.written) = utf8Bytes spelling.text := by
  have hread := spelling.read []
  rwa [List.append_nil, percentDecode, List.append_nil] at hread

theorem isEmpty_written (h : spelling.text ≠ "") : spelling.written.isEmpty = false := by
  rw [List.isEmpty_eq_false_iff]
  intro hwritten
  have hread := spelling.percentDecode_written
  rw [hwritten] at hread
  exact h (utf8Bytes_injective hread.symm)

/-- A name or value of a query is read back from its spelling. -/
theorem decodeText_written : Form.decodeText (Utf8.encode spelling.written) = spelling.text := by
  have hplus : (Utf8.encode spelling.written).map
      (fun byte => if byte = 0x2B then 0x20 else byte) = Utf8.encode spelling.written := by
    apply (List.map_congr_left _).trans (List.map_id _)
    intro byte hbyte
    exact if_neg (ne_of_mem_encode spelling.plain byte hbyte).2.2
  rw [Form.decodeText, hplus, spelling.percentDecode_written, utf8Bytes, Utf8.decodeLossy_encode,
    String.ofList_toList]

theorem decodeSegment_written (url : Url) :
    ResourceTarget.decodeSegment url spelling.written = .ok spelling.text := by
  rw [ResourceTarget.decodeSegment, spelling.percentDecode_written, utf8Bytes, Utf8.decode_encode]
  simp only [String.ofList_toList]

/-! ### Dots -/

theorem percentDecode_of_dot? {written rest : List Char} (h : dot? written = some rest) :
    percentDecode (Utf8.encode written) = 0x2E :: percentDecode (Utf8.encode rest) := by
  unfold dot? at h
  split at h <;> cases h <;> rfl

/-- Only a dot is spelled as one. -/
theorem isSingleDot_written (h : spelling.text ≠ ".") : isSingleDot spelling.written = false := by
  rw [isSingleDot, beq_eq_false_iff_ne]
  intro hdot
  apply h
  apply utf8Bytes_injective
  rw [← spelling.percentDecode_written, percentDecode_of_dot? hdot]
  rfl

/-- A name is taken for the step upwards only if it spells one, also where dots are encoded. -/
theorem isDoubleDot_written (h : spelling.text ≠ "..") : isDoubleDot spelling.written = false := by
  rw [isDoubleDot, beq_eq_false_iff_ne]
  intro hdots
  obtain ⟨rest, hfirst, hsecond⟩ := Option.bind_eq_some_iff.1 hdots
  apply h
  apply utf8Bytes_injective
  rw [← spelling.percentDecode_written, percentDecode_of_dot? hfirst, percentDecode_of_dot? hsecond]
  rfl

end Spelling

/-! ## Queries -/

structure SpelledPair where
  name : Spelling
  value : Spelling

namespace SpelledPair

def text (pair : SpelledPair) : String × String := (pair.name.text, pair.value.text)

def written (pair : SpelledPair) : List Char := pair.name.written ++ '=' :: pair.value.written

theorem isPairChar_of_mem_written (pair : SpelledPair) :
    ∀ character ∈ pair.written, isPairChar character = true :=
  List.forall_mem_append.2
    ⟨fun character hcharacter => isPairChar_of_isNameChar (pair.name.plain character hcharacter),
      List.forall_mem_cons.2 ⟨rfl, fun character hcharacter =>
        isPairChar_of_isNameChar (pair.value.plain character hcharacter)⟩⟩

/-- A written pair is read as that pair alone, as nothing in it ends a pair or a name. -/
theorem decode_written (pair : SpelledPair) :
    Form.decode (Utf8.encode pair.written) = [pair.text] := by
  have hname := ne_of_mem_encode pair.name.plain
  have hvalue := ne_of_mem_encode pair.value.plain
  have hbytes : Utf8.encode pair.written =
      Utf8.encode pair.name.written ++ 0x3D :: Utf8.encode pair.value.written := by
    rw [written, Utf8.encode_append, Utf8.encode_cons]
    rfl
  rw [hbytes, Form.decode_pair (fun byte hbyte => ⟨(hname byte hbyte).1, (hname byte hbyte).2.1⟩)
    fun byte hbyte => (hvalue byte hbyte).1, pair.name.decodeText_written,
    pair.value.decodeText_written]
  rfl

end SpelledPair

def queryText (pairs : List SpelledPair) : List Char :=
  ['&'].intercalate (pairs.map SpelledPair.written)

theorem queryText_cons (first : SpelledPair) (rest : List SpelledPair) :
    queryText (first :: rest) = first.written ++ rest.flatMap fun pair => '&' :: pair.written := by
  induction rest generalizing first with
  | nil => rw [queryText, List.map_singleton, List.intercalate_singleton, List.flatMap_nil,
      List.append_nil]
  | cons second rest ih =>
    rw [queryText, List.map_cons, List.map_cons, List.intercalate_cons_cons, ← List.map_cons,
      ← queryText, ih, List.append_assoc]
    rfl

theorem isPairChar_of_mem_queryText (pairs : List SpelledPair) :
    ∀ character ∈ queryText pairs, isPairChar character = true := by
  cases pairs with
  | nil => exact List.forall_mem_nil _
  | cons first rest =>
    rw [queryText_cons]
    apply List.forall_mem_append.2 ⟨first.isPairChar_of_mem_written, _⟩
    intro character hcharacter
    obtain ⟨pair, -, hmem⟩ := List.mem_flatMap.1 hcharacter
    rcases List.mem_cons.1 hmem with rfl | hmem
    · rfl
    · exact pair.isPairChar_of_mem_written character hmem

/-- A query is read as the pairs that it is made of. -/
theorem decode_queryText (pairs : List SpelledPair) :
    Form.decode (Utf8.encode (queryText pairs)) = pairs.map SpelledPair.text := by
  have hbehind : ∀ (rest : List SpelledPair) (first : SpelledPair),
      Form.decode (Utf8.encode (first.written ++ rest.flatMap fun pair => '&' :: pair.written)) =
        first.text :: rest.map SpelledPair.text := by
    intro rest
    induction rest with
    | nil =>
      intro first
      rw [List.flatMap_nil, List.append_nil]
      exact first.decode_written
    | cons second rest ih =>
      intro first
      have hbytes : Utf8.encode (first.written ++
          (second :: rest).flatMap fun pair => '&' :: pair.written) =
            Utf8.encode first.written ++ 0x26 ::
              Utf8.encode (second.written ++ rest.flatMap fun pair => '&' :: pair.written) := by
        rw [List.flatMap_cons, Utf8.encode_append, List.cons_append, Utf8.encode_cons]
        rfl
      rw [hbytes, Form.decode_append_cons, first.decode_written, ih]
      rfl
  cases pairs with
  | nil => rfl
  | cons first rest =>
    rw [queryText_cons]
    exact hbehind rest first

/-! ## Paths -/

/-- A name that stays as it is where a path is resolved. -/
structure IsSettled (name : List Char) : Prop where
  plain : ∀ character ∈ name, isNameChar character = true
  notDot : isSingleDot name = false
  notDots : isDoubleDot name = false

theorem percentEncode_of_forall {isReserved : Char → Bool} {text : List Char}
    (h : ∀ character ∈ text, character.toNat < 0x80 ∧ isReserved character = false) :
    percentEncode isReserved text = text := by
  induction text with
  | nil => rfl
  | cons character rest ih =>
    obtain ⟨⟨hascii, hreserved⟩, hrest⟩ := List.forall_mem_cons.1 h
    have hself : percentChar isReserved character = [character] := by
      simp [percentChar, hascii, hreserved]
    rw [percentEncode, List.flatMap_cons, hself, ← percentEncode, ih hrest, List.singleton_append]

theorem resolve_of_isSettled {names : List (List Char)} (h : ∀ name ∈ names, IsSettled name)
    (before : List (List Char)) : resolve before names = before ++ names := by
  induction names generalizing before with
  | nil => rw [resolve, List.append_nil]
  | cons name rest ih =>
    obtain ⟨hname, hrest⟩ := List.forall_mem_cons.1 h
    have hself : percentEncode isPathReserved name = name := by
      apply percentEncode_of_forall
      intro character hcharacter
      obtain ⟨hascii, -, -, hreserved⟩ := isNameChar_spec (hname.plain character hcharacter)
      exact ⟨hascii, hreserved⟩
    have hadvance : advance before name rest.isEmpty = before ++ [name] := by
      simp only [advance, hname.notDot, hname.notDots, hself, Bool.false_eq_true, if_false]
    rw [resolve, hadvance, ih hrest, List.append_assoc, List.singleton_append]

theorem splitAll_of_isNameChar {name : List Char}
    (h : ∀ character ∈ name, isNameChar character = true) : splitAll (· == '/') name = [name] := by
  apply splitAll_of_forall_not
  intro character hcharacter
  exact beq_eq_false_of_isNameChar (h character hcharacter) rfl

/-- Settled names are cut off where they were put together, whichever slashes separate. -/
theorem splitAll_append_of_isSettled {isSeparator : Char → Bool} (hslash : isSeparator '/' = true)
    (hplain : ∀ character, isNameChar character = true → isSeparator character = false)
    {names : List (List Char)} (h : ∀ name ∈ names, IsSettled name) (text : List Char) :
    splitAll isSeparator (text ++ segmentsText names) = splitAll isSeparator text ++ names := by
  induction names generalizing text with
  | nil => rw [segmentsText, List.flatMap_nil, List.append_nil, List.append_nil]
  | cons name rest ih =>
    obtain ⟨hname, hrest⟩ := List.forall_mem_cons.1 h
    have htext : text ++ segmentsText (name :: rest) =
        text ++ '/' :: (name ++ segmentsText rest) := rfl
    have hself : splitAll isSeparator name = [name] :=
      splitAll_of_forall_not fun character hmem => hplain character (hname.plain character hmem)
    rw [htext, splitAll_append_cons hslash, ih hrest, hself, List.singleton_append]

theorem splitAll_append_segmentsText {name : List Char} {names : List (List Char)}
    (h : ∀ other ∈ name :: names, IsSettled other) :
    splitAll (· == '/') (name ++ segmentsText names) = name :: names := by
  obtain ⟨hname, hnames⟩ := List.forall_mem_cons.1 h
  have hplain : ∀ character, isNameChar character = true → (character == '/') = false :=
    fun character hcharacter => beq_eq_false_of_isNameChar hcharacter rfl
  rw [splitAll_append_of_isSettled rfl hplain hnames, splitAll_of_isNameChar hname.plain,
    List.singleton_append]

/-- A path of settled names is read as these names. -/
theorem pathAfterAuthority_segmentsText {names : List (List Char)}
    (h : ∀ name ∈ names, IsSettled name) :
    pathAfterAuthority .plain (segmentsText names) = .segments names := by
  cases names with
  | nil => rfl
  | cons name rest =>
    have hslash : SchemeKind.plain.isSlash = (· == '/') := rfl
    change Path.segments (resolve [] (splitAll SchemeKind.plain.isSlash
      (name ++ segmentsText rest))) = _
    rw [hslash, splitAll_append_segmentsText h, resolve_of_isSettled h, List.nil_append]

/-! ## Hosts -/

section Host

variable {host : List Char} (h : ∀ character ∈ host, isNameChar character = true)
include h

theorem splitPort_of_isNameChar : splitPort false host = (host, none) := by
  induction host with
  | nil => rfl
  | cons character rest ih =>
    obtain ⟨hcharacter, hrest⟩ := List.forall_mem_cons.1 h
    have hcolon : (character == ':') = false := beq_eq_false_of_isNameChar hcharacter rfl
    have hbracket : (character == '[') = false := beq_eq_false_of_isNameChar hcharacter rfl
    simp [splitPort, hcolon, hbracket, ih hrest]

theorem plainHost_of_isNameChar : plainHost host = .ok host := by
  have hbracketed : bracketed? host = .ok none := by
    cases host with
    | nil => rfl
    | cons character rest =>
      have hbracket : (character == '[') = false :=
        beq_eq_false_of_isNameChar (h character List.mem_cons_self) rfl
      unfold bracketed?
      split
      · rename_i heq
        obtain ⟨rfl, -⟩ := List.cons.inj heq
        cases hbracket
      · rfl
  have hallowed : host.any isForbiddenInHost = false := by
    rw [List.any_eq_false]
    intro character hcharacter
    rw [(isNameChar_spec (h character hcharacter)).2.1]
    exact Bool.false_ne_true
  have hself : percentEncode isControl host = host := by
    apply percentEncode_of_forall
    intro character hcharacter
    obtain ⟨hascii, -, hcontrol, -⟩ := isNameChar_spec (h character hcharacter)
    exact ⟨hascii, hcontrol⟩
  simp [plainHost, hbracketed, hallowed, hself]

theorem readAuthority_of_isNameChar (atEnd : Bool) :
    readAuthority .plain host atEnd = .ok ({ host := host }, []) := by
  have huser : splitLast (· == '@') host = (none, host) := by
    apply splitLast_of_forall_not
    intro character hcharacter
    exact beq_eq_false_of_isNameChar (h character hcharacter) rfl
  have hkind : hostOfKind .plain host = plainHost host := rfl
  have hport : port? [] = .ok (none, []) := rfl
  unfold readAuthority
  simp only [huser, splitPort_of_isNameChar h, hkind, plainHost_of_isNameChar h,
    Option.getD_none, hport]
  cases host <;> rfl

end Host

/-! ## URLs -/

/-- The parts of a URL whose host, path and query are spelled, and what makes them readable. -/
structure EncodedUrl where
  scheme : List Char
  host : Spelling
  path : List Spelling
  query : List SpelledPair
  scheme_plain : scheme.all isNameChar = true
  scheme_read : ∀ rest, splitScheme? (scheme ++ ':' :: rest) = some (scheme, rest)
  scheme_kind : SchemeKind.ofScheme scheme = .plain
  host_filled : host.text ≠ ""
  path_settled : ∀ name ∈ path, name.text ≠ "" ∧ name.text ≠ "." ∧ name.text ≠ ".."

namespace EncodedUrl

variable (url : EncodedUrl)

def names : List (List Char) := url.path.map Spelling.written

/-- What stands between the scheme and the query. -/
def location : List Char := '/' :: '/' :: (url.host.written ++ segmentsText url.names)

def text : List Char :=
  url.scheme ++ ':' :: (url.location ++ '?' :: queryText url.query)

def toUrl : Url where
  scheme := url.scheme
  authority := some { host := url.host.written }
  path := .segments url.names
  query := some (queryText url.query)
  fragment := none

theorem isSettled_of_mem_names : ∀ name ∈ url.names, IsSettled name := by
  intro name hname
  obtain ⟨spelling, hmem, rfl⟩ := List.mem_map.1 hname
  obtain ⟨-, hdot, hdots⟩ := url.path_settled spelling hmem
  exact ⟨spelling.plain, spelling.isSingleDot_written hdot, spelling.isDoubleDot_written hdots⟩

theorem isUrlChar_of_mem_location : ∀ character ∈ url.location,
    isUrlChar character = true ∧ character ≠ '?' := by
  have hname {character : Char} (h : isNameChar character = true) :
      isUrlChar character = true ∧ character ≠ '?' :=
    ⟨isUrlChar_of_isNameChar h, beq_eq_false_iff_ne.1 (beq_eq_false_of_isNameChar h rfl)⟩
  have hslash : isUrlChar '/' = true ∧ '/' ≠ '?' := by decide
  intro character hcharacter
  simp only [location, segmentsText, List.mem_cons, List.mem_append, List.mem_flatMap] at hcharacter
  rcases hcharacter with rfl | rfl | hhost | ⟨name, hmem, rfl | hpath⟩
  · exact hslash
  · exact hslash
  · exact hname (url.host.plain character hhost)
  · exact hslash
  · exact hname ((url.isSettled_of_mem_names name hmem).plain character hpath)

theorem isUrlChar_of_mem_query : ∀ character ∈ queryText url.query, isUrlChar character = true :=
  fun character hcharacter =>
    isUrlChar_of_isPairChar (isPairChar_of_mem_queryText url.query character hcharacter)

theorem isUrlChar_of_mem_rest : ∀ character ∈ url.location ++ '?' :: queryText url.query,
    isUrlChar character = true :=
  List.forall_mem_append.2
    ⟨fun character hcharacter => (url.isUrlChar_of_mem_location character hcharacter).1,
      List.forall_mem_cons.2 ⟨rfl, url.isUrlChar_of_mem_query⟩⟩

theorem isUrlChar_of_mem_text : ∀ character ∈ url.text, isUrlChar character = true := by
  have hscheme : ∀ character ∈ url.scheme, isUrlChar character = true :=
    fun character hcharacter =>
      isUrlChar_of_isNameChar (List.all_eq_true.1 url.scheme_plain character hcharacter)
  exact List.forall_mem_append.2
    ⟨hscheme, List.forall_mem_cons.2 ⟨rfl, url.isUrlChar_of_mem_rest⟩⟩

theorem withAuthority_location (atEnd : Bool) :
    withAuthority .plain (url.host.written ++ segmentsText url.names) atEnd =
      .ok (some { host := url.host.written }, .segments url.names) := by
  have hslash : ∀ character ∈ url.host.written, (!SchemeKind.plain.isSlash character) = true := by
    intro character hcharacter
    exact congrArg (!·) (beq_eq_false_of_isNameChar (url.host.plain character hcharacter) rfl)
  have htake : (segmentsText url.names).takeWhile
      (fun character => !SchemeKind.plain.isSlash character) = [] := by
    cases url.names <;> rfl
  have hdrop : (segmentsText url.names).dropWhile
      (fun character => !SchemeKind.plain.isSlash character) = segmentsText url.names := by
    cases url.names <;> rfl
  rw [withAuthority, List.takeWhile_append_of_pos hslash, List.dropWhile_append_of_pos hslash,
    htake, hdrop, List.append_nil, readAuthority_of_isNameChar url.host.plain]
  simp only [bind, Except.bind, List.nil_append,
    pathAfterAuthority_segmentsText url.isSettled_of_mem_names]
  rfl

theorem hierarchy_location (atEnd : Bool) :
    hierarchy .plain url.location atEnd =
      .ok (some { host := url.host.written }, .segments url.names) := by
  have hbreaks : withoutBreaks url.location = url.location :=
    withoutBreaks_of_isUrlChar fun character hcharacter =>
      (url.isUrlChar_of_mem_location character hcharacter).1
  rw [hierarchy, hbreaks]
  exact url.withAuthority_location atEnd

theorem percentEncode_query :
    percentEncode isQueryReserved (withoutBreaks (queryText url.query)) = queryText url.query := by
  rw [withoutBreaks_of_isUrlChar url.isUrlChar_of_mem_query]
  apply percentEncode_of_forall
  intro character hcharacter
  exact isPairChar_spec (isPairChar_of_mem_queryText url.query character hcharacter)

/-- The text of such a URL is read as the URL. -/
theorem parse_text : parse url.text = .ok url.toUrl := by
  have htrim : trim isOuterBlank url.text = url.text := by
    apply trim_of_forall_not
    intro character hcharacter
    exact (isUrlChar_spec (url.isUrlChar_of_mem_text character hcharacter)).1
  have hfragment : splitFirst (· == '#') (url.location ++ '?' :: queryText url.query) =
      (url.location ++ '?' :: queryText url.query, none) := by
    apply splitFirst_of_forall_not
    intro character hcharacter
    rw [beq_eq_false_iff_ne]
    exact (isUrlChar_spec (url.isUrlChar_of_mem_rest character hcharacter)).2.2
  have hquery : splitFirst (· == '?') (url.location ++ '?' :: queryText url.query) =
      (url.location, some (queryText url.query)) := by
    apply splitFirst_append_cons rfl
    intro character hcharacter
    rw [beq_eq_false_iff_ne]
    exact (url.isUrlChar_of_mem_location character hcharacter).2
  rw [parse, htrim, text, url.scheme_read]
  simp only [url.scheme_kind, hfragment, hquery, url.hierarchy_location, SchemeKind.isSpecial,
    Bool.false_eq_true, if_false, Option.map_some, Option.map_none, url.percentEncode_query]
  rfl

/-! ### Resources -/

theorem rawSegments_toUrl :
    ResourceTarget.rawSegments url.toUrl = url.host.written :: url.names := by
  have hhost : url.host.written.isEmpty = false := url.host.isEmpty_written url.host_filled
  have hnames : ∀ name ∈ url.names, (!name.isEmpty) = true := by
    intro name hname
    obtain ⟨spelling, hmem, rfl⟩ := List.mem_map.1 hname
    rw [spelling.isEmpty_written (url.path_settled spelling hmem).1]
    rfl
  have hpath : (splitAll (· == '/') (segmentsText url.names)).filter (fun name => !name.isEmpty) =
      url.names := by
    cases hcases : url.names with
    | nil => rfl
    | cons name rest =>
      have hsettled := url.isSettled_of_mem_names
      rw [hcases] at hsettled hnames
      change ([] :: splitAll (· == '/') (name ++ segmentsText rest)).filter _ = _
      rw [splitAll_append_segmentsText hsettled]
      exact List.filter_eq_self.2 hnames
  have hfound : url.toUrl.host? = some url.host.written := by
    simp only [host?, toUrl, hhost, Bool.false_eq_true, if_false]
  rw [ResourceTarget.rawSegments, hfound]
  change ((url.host.written :: splitAll (· == '/') (segmentsText url.names)).filter _) = _
  rw [List.filter_cons_of_pos (by rw [hhost]; rfl), hpath]

/-- The host and the names of the path are read back as the texts they spell. -/
theorem segments_toUrl :
    ResourceTarget.segments url.toUrl = .ok ((url.host :: url.path).map Spelling.text) := by
  have hwritten : url.host.written :: url.names = (url.host :: url.path).map Spelling.written := rfl
  rw [ResourceTarget.segments, rawSegments_toUrl, hwritten]
  induction url.host :: url.path with
  | nil => rfl
  | cons spelling rest ih =>
    rw [List.map_cons, List.mapM_cons, spelling.decodeSegment_written, ih]
    rfl

/-- The pairs of the query are read back in their order. -/
theorem queryPairs_toUrl :
    ResourceTarget.queryPairs url.toUrl = url.query.map SpelledPair.text :=
  decode_queryText url.query

/-- What such a URL names is found in the texts that its parts stand for. -/
theorem resolve_text :
    ResourceTarget.resolve (String.ofList url.text) =
      ResourceTarget.ofSegments (String.ofList url.text) url.toUrl
        ((url.host :: url.path).map Spelling.text) := by
  rw [ResourceTarget.resolve, String.toList_ofList]
  simp only [url.parse_text, url.segments_toUrl]

end EncodedUrl

end DocBridge.Url
