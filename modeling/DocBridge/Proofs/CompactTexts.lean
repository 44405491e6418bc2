import DocBridge.Proofs.NumberTexts

/-!
# Compact texts are read back

The compact text of a value is read as one value and nothing else: the machine that reads JSON
finds in it the outline of the value, and stops neither before its end nor inside it.  The text
holds no control byte, so that it stays on one line whatever its strings hold.
-/

namespace DocBridge.Json.Outline

/-! ## The outline of a value -/

def unitsOf (character : Char) : List TextUnit :=
  match character with
  | '"' => [.byte 0x22]
  | '\\' => [.byte 0x5C]
  | '\x08' => [.byte 0x08]
  | '\x0c' => [.byte 0x0C]
  | '\n' => [.byte 0x0A]
  | '\r' => [.byte 0x0D]
  | '\t' => [.byte 0x09]
  | other =>
    if other.toNat < 0x20 then [.utf16 other.toNat]
    else (String.utf8EncodeChar other).map .byte

/-- The units that a written string is read as. -/
def textOf (text : String) : List TextUnit := text.toList.flatMap unitsOf

mutual

def ofJson : Json → Outline
  | .null => .null
  | .bool value => .bool value
  | .number value => .number (Utf8.encode value.text)
  | .string text => .string (textOf text)
  | .array items => .array (ofItems items) true
  | .object members => .object (ofMembers members) true

def ofItems : List Json → List Outline
  | [] => []
  | item :: rest => ofJson item :: ofItems rest

def ofMembers : Members → List (List TextUnit × Outline)
  | [] => []
  | (key, value) :: rest => (textOf key, ofJson value) :: ofMembers rest

end

/-! ## Strings -/

/-- Bytes that stand for themselves inside a string. -/
theorem run_plain (isName : Bool) (units : List TextUnit) (frames : List Frame) {bytes : Bytes}
    (h : ∀ byte ∈ bytes, 0x20 ≤ byte.toNat ∧ byte ≠ 0x22 ∧ byte ≠ 0x5C) :
    run (.reading (.text isName .plain units) frames) bytes =
      .reading (.text isName .plain ((bytes.map TextUnit.byte).reverse ++ units)) frames := by
  induction bytes generalizing units with
  | nil => rfl
  | cons byte rest ih =>
    obtain ⟨hcontrol, hquote, hbackslash⟩ := h byte List.mem_cons_self
    have hnot : ¬ byte < 0x20 := by
      rw [UInt8.lt_iff_toNat_lt]
      exact Nat.not_lt_of_le hcontrol
    have hstep : step (.reading (.text isName .plain units) frames) byte =
        .reading (.text isName .plain (.byte byte :: units)) frames := by
      simp [step, stepText, hquote, hbackslash, hnot]
    rw [run_cons, hstep, ih _ fun other hother => h other (List.mem_cons_of_mem byte hother)]
    simp

/-- A control without a letter of its own is written in hexadecimal. -/
theorem run_hexadecimal (isName : Bool) (units : List TextUnit) (frames : List Frame) {code : Nat}
    (h : code < 0x20) :
    run (.reading (.text isName .plain units) frames)
        (Utf8.encode ['\\', 'u', '0', '0', Digit.lower (code / 16), Digit.lower (code % 16)]) =
      .reading (.text isName .plain (.utf16 code :: units)) frames := by
  have hdigit : ∀ digit : Fin 16, (Digit.lower digit.val).toNat < 0x80 ∧
      Digit.byteValue? (UInt8.ofNat (Digit.lower digit.val).toNat) = some digit.val := by decide
  obtain ⟨hhighAscii, hhigh⟩ := hdigit ⟨code / 16, by omega⟩
  obtain ⟨hlowAscii, hlow⟩ := hdigit ⟨code % 16, by omega⟩
  have hbytes : Utf8.encode
      ['\\', 'u', '0', '0', Digit.lower (code / 16), Digit.lower (code % 16)] =
      [0x5C, 0x75, 0x30, 0x30, UInt8.ofNat (Digit.lower (code / 16)).toNat,
        UInt8.ofNat (Digit.lower (code % 16)).toNat] := by
    simp only [Utf8.encode_cons, Utf8.encodeChar_of_lt hhighAscii,
      Utf8.encodeChar_of_lt hlowAscii]
    rfl
  have hzero : Digit.byteValue? 0x30 = some 0 := rfl
  have hcode : (code / 16) * 16 + code % 16 = code := Nat.div_add_mod' code 16
  simp only at hhigh hlow
  rw [hbytes]
  simp [run, step, stepText, hzero, hhigh, hlow, hcode]

/-- A character that is written as it is has plain bytes only. -/
theorem plain_of_mem_encodeChar {character : Char} (hcontrol : 0x20 ≤ character.toNat)
    (hquote : character ≠ '"') (hbackslash : character ≠ '\\') :
    ∀ byte ∈ String.utf8EncodeChar character, 0x20 ≤ byte.toNat ∧ byte ≠ 0x22 ∧ byte ≠ 0x5C := by
  intro byte hbyte
  rcases Utf8.toNat_of_mem_encodeChar hbyte with hcode | hhigh
  · refine ⟨by omega, ?_, ?_⟩
    · rintro rfl
      exact hquote (Char.toNat_inj.1 hcode.symm)
    · rintro rfl
      exact hbackslash (Char.toNat_inj.1 hcode.symm)
  · refine ⟨by omega, ?_, ?_⟩ <;> rintro rfl <;> exact absurd hhigh (by decide)

/-- What is written for a character is read as its units. -/
theorem run_escape (isName : Bool) (units : List TextUnit) (frames : List Frame)
    (character : Char) :
    run (.reading (.text isName .plain units) frames) (Utf8.encode (Quoted.escape character)) =
      .reading (.text isName .plain ((unitsOf character).reverse ++ units)) frames := by
  unfold Quoted.escape
  split
  · rfl
  · rfl
  · rfl
  · rfl
  · rfl
  · rfl
  · rfl
  · rename_i hquote hbackslash _ _ _ _ _
    have hunits : unitsOf character =
        if character.toNat < 0x20 then [.utf16 character.toNat]
        else (String.utf8EncodeChar character).map .byte := by
      unfold unitsOf
      split <;> first | rfl | contradiction
    rw [hunits]
    split
    · rename_i hcontrol
      exact run_hexadecimal isName units frames hcontrol
    · rename_i hcontrol
      rw [Utf8.encode_cons, Utf8.encode_nil, List.append_nil]
      exact run_plain isName units frames
        (plain_of_mem_encodeChar (Nat.le_of_not_lt hcontrol) hquote hbackslash)

/-- What is written for a text is read as its units. -/
theorem run_escapes (isName : Bool) (units : List TextUnit) (frames : List Frame)
    (text : List Char) :
    run (.reading (.text isName .plain units) frames)
        (Utf8.encode (text.flatMap Quoted.escape)) =
      .reading (.text isName .plain ((text.flatMap unitsOf).reverse ++ units)) frames := by
  induction text generalizing units with
  | nil => rfl
  | cons character rest ih =>
    rw [List.flatMap_cons, Utf8.encode_append, run_append, run_escape, ih, List.flatMap_cons,
      List.reverse_append, List.append_assoc]

theorem encode_quote (text : String) :
    Utf8.encode (Quoted.quote text.toList) =
      0x22 :: (Utf8.encode (text.toList.flatMap Quoted.escape) ++ [0x22]) := by
  rw [Quoted.quote, Utf8.encode_cons, Utf8.encode_append]
  rfl

/-! ## Values -/

/-- The states behind a whole value.  A number ends only where something else begins, so that the
machine can still be inside it. -/
inductive Settled (value : Outline) (frames : List Frame) : State → Prop
  | delivered : Settled value frames (deliver value frames)
  | number {place : NumberPlace} {digits : Bytes} (haccepts : place.accepts = true)
      (hvalue : value = .number digits.reverse) :
      Settled value frames (.reading (.number place digits) frames)

/-- A separator, a closing bracket or the end of a line behind a value. -/
theorem Settled.step_eq {value : Outline} {frames : List Frame} {state : State}
    (h : Settled value frames state) {byte : UInt8}
    (hbyte : byte = 0x2C ∨ byte = 0x5D ∨ byte = 0x7D ∨ byte = 0x0A) :
    step state byte = follow (deliver value frames) byte := by
  cases h with
  | delivered =>
    cases frames with
    | nil => rfl
    | cons frame rest => cases frame <;> rfl
  | number haccepts hvalue =>
    rename_i place digits
    have hnext : place.next? byte = none := by
      rcases hbyte with rfl | rfl | rfl | rfl <;> cases place <;> rfl
    have hrefuses : place.refuses byte = false := by
      rcases hbyte with rfl | rfl | rfl | rfl <;> cases place <;> rfl
    simp [step, hnext, haccepts, hrefuses, hvalue]

/-- The end of the text behind a value. -/
theorem Settled.finish_eq {value : Outline} {state : State} (h : Settled value [] state) :
    state.finish = ⟨value, false⟩ := by
  cases h with
  | delivered => rfl
  | number haccepts hvalue => simp [State.finish, haccepts, deliver, hvalue]

/-- Bytes that are read as one value wherever a value can begin. -/
def Spells (bytes : Bytes) (value : Outline) : Prop :=
  ∀ mode frames, mode = .value ∨ mode = .itemOrClose →
    Settled value frames (run (.reading mode frames) bytes)

theorem spells_null : Spells (Utf8.encode nullText) .null := by
  rintro mode frames (rfl | rfl) <;> exact .delivered

theorem spells_bool (value : Bool) : Spells (Utf8.encode (boolText value)) (.bool value) := by
  cases value <;> rintro mode frames (rfl | rfl) <;> exact .delivered

theorem spells_string (text : String) :
    Spells (Utf8.encode (Quoted.quote text.toList)) (.string (textOf text)) := by
  rintro mode frames hmode
  have hbegin : step (.reading mode frames) 0x22 = .reading (.text false .plain []) frames := by
    rcases hmode with rfl | rfl <;> rfl
  rw [encode_quote, run_cons, hbegin, run_append, run_escapes]
  have hclose : run (.reading (.text false .plain ((text.toList.flatMap unitsOf).reverse ++ []))
      frames) [0x22] = deliver (.string (textOf text)) frames := by
    simp [run, step, stepText, textOf]
  rw [hclose]
  exact .delivered

/-! ### Numbers -/

/-- Inside a number the reader goes through the same places as its grammar. -/
theorem run_number {place last : NumberPlace} {bytes : Bytes}
    (h : place.run? bytes = some last) (digits : Bytes) (frames : List Frame) :
    run (.reading (.number place digits) frames) bytes =
      .reading (.number last (bytes.reverse ++ digits)) frames := by
  induction bytes generalizing place digits with
  | nil =>
    obtain rfl := Option.some.inj h
    rfl
  | cons byte rest ih =>
    obtain ⟨next, hnext, hrest⟩ := Option.bind_eq_some_iff.1 h
    have hstep : step (.reading (.number place digits) frames) byte =
        .reading (.number next (byte :: digits)) frames := by
      simp [step, hnext]
    rw [run_cons, hstep, ih hrest]
    simp

theorem next?_sign_eq_some {byte : UInt8} {place : NumberPlace}
    (h : NumberPlace.sign.next? byte = some place) :
    byte = 0x30 ∧ place = .zero ∨
      byte ≠ 0x30 ∧ Digit.isDecimalByte byte = true ∧ place = .integer := by
  simp only [NumberPlace.next?] at h
  split at h
  · rename_i hzero
    exact .inl ⟨hzero, (Option.some.inj h).symm⟩
  · rename_i hzero
    split at h
    · rename_i hdigit
      exact .inr ⟨hzero, hdigit, (Option.some.inj h).symm⟩
    · cases h

/-- The first digit of a number. -/
theorem step_of_next? {byte : UInt8} {place : NumberPlace}
    (h : NumberPlace.sign.next? byte = some place) {mode : Mode}
    (hmode : mode = .value ∨ mode = .itemOrClose) (frames : List Frame) :
    step (.reading mode frames) byte = .reading (.number place [byte]) frames := by
  rcases next?_sign_eq_some h with ⟨rfl, rfl⟩ | ⟨hzero, hdigit, rfl⟩
  · rcases hmode with rfl | rfl <;> rfl
  · have hbounds := Digit.isDecimalByte_iff.1 hdigit
    have hother : ∀ other : UInt8, ¬ (0x30 ≤ other.toNat ∧ other.toNat ≤ 0x39) → byte ≠ other := by
      rintro other hother rfl
      exact hother hbounds
    have hbegin : begin frames byte = .reading (.number .integer [byte]) frames := by
      simp [begin, hother, hzero, hdigit]
    rw [← hbegin]
    have hblank : isBlank byte = false := by
      simp [isBlank, hother]
    rcases hmode with rfl | rfl <;> simp [step, hblank, hother]

/-- The text of a number is kept as it is written. -/
theorem spells_number (value : Number) :
    Spells (Utf8.encode value.text) (.number (Utf8.encode value.text)) := by
  intro mode frames hmode
  obtain ⟨magnitude, ⟨last, hrun, haccepts⟩, hplain | hsigned⟩ :=
    NumberPlace.exists_isMagnitude value
  · rw [hplain]
    cases hbytes : Utf8.encode magnitude with
    | nil =>
      rw [hbytes] at hrun
      obtain rfl := Option.some.inj hrun
      exact absurd haccepts Bool.false_ne_true
    | cons first rest =>
      rw [hbytes] at hrun
      obtain ⟨place, hfirst, hrest⟩ := Option.bind_eq_some_iff.1 hrun
      rw [run_cons, step_of_next? hfirst hmode, run_number hrest]
      exact .number haccepts (by simp)
  · have hbegin : step (.reading mode frames) 0x2D = .reading (.number .sign [0x2D]) frames := by
      rcases hmode with rfl | rfl <;> rfl
    have hbytes : Utf8.encode ('-' :: magnitude) = 0x2D :: Utf8.encode magnitude := rfl
    rw [hsigned, hbytes, run_cons, hbegin, run_number hrun]
    exact .number haccepts (by simp)

/-! ### Arrays and objects -/

theorem Settled.run_cons {value : Outline} {frames : List Frame} {state : State}
    (h : Settled value frames state) {byte : UInt8}
    (hbyte : byte = 0x2C ∨ byte = 0x5D ∨ byte = 0x7D ∨ byte = 0x0A) (rest : Bytes) :
    run state (byte :: rest) = run (follow (deliver value frames) byte) rest := by
  rw [Outline.run_cons, h.step_eq hbyte]

/-- The items of an array behind those that have been read.  A closing bracket may stand where the
first item is awaited, and nowhere else may an item be missing. -/
theorem run_compactItems {items : List Json}
    (hitems : ∀ item ∈ items, Spells (Utf8.encode item.compact) (ofJson item))
    {mode : Mode} (hmode : mode = .value ∧ items ≠ [] ∨ mode = .itemOrClose)
    (read : List Outline) (frames : List Frame) :
    run (.reading mode (.array read :: frames)) (Utf8.encode (compactItems items)) =
      deliver (.array (read.reverse ++ ofItems items) true) frames := by
  induction items generalizing mode read with
  | nil =>
    rcases hmode with ⟨-, hne⟩ | rfl
    · exact absurd rfl hne
    · rw [ofItems, List.append_nil]
      rfl
  | cons item rest ih =>
    have hitem := hitems item List.mem_cons_self mode (.array read :: frames)
      (hmode.imp_left And.left)
    cases rest with
    | nil =>
      have hclose : Utf8.encode [']'] = [0x5D] := rfl
      have hread : read.reverse ++ ofItems [item] = (ofJson item :: read).reverse := by
        simp [ofItems]
      rw [compactItems, Utf8.encode_append, run_append, hclose, hitem.run_cons (.inr (.inl rfl)),
        hread]
      rfl
    | cons next others =>
      have hcomma : Utf8.encode (',' :: compactItems (next :: others)) =
          0x2C :: Utf8.encode (compactItems (next :: others)) := rfl
      have hread : read.reverse ++ ofItems (item :: next :: others) =
          (ofJson item :: read).reverse ++ ofItems (next :: others) := by
        simp [ofItems]
      have hrest := ih (fun other hother => hitems other (List.mem_cons_of_mem item hother))
        (.inl ⟨rfl, List.cons_ne_nil next others⟩) (ofJson item :: read)
      rw [compactItems, Utf8.encode_append, run_append, hcomma, hitem.run_cons (.inl rfl), hread,
        ← hrest]
      rfl

/-- The name of a member and the colon behind it. -/
theorem run_name {mode : Mode} (hmode : mode = .name ∨ mode = .memberOrClose)
    (read : List (List TextUnit × Outline)) (frames : List Frame) (key : String)
    (rest : Bytes) :
    run (.reading mode (.object read :: frames))
        (Utf8.encode (Quoted.quote key.toList) ++ 0x3A :: rest) =
      run (.reading .value (.member (textOf key) read :: frames)) rest := by
  have hbegin : step (.reading mode (.object read :: frames)) 0x22 =
      .reading (.text true .plain []) (.object read :: frames) := by
    rcases hmode with rfl | rfl <;> rfl
  have hclose : run (.reading (.text true .plain (textOf key).reverse) (.object read :: frames))
      (0x22 :: 0x3A :: rest) =
        run (.reading .value (.member (textOf key).reverse.reverse read :: frames)) rest := rfl
  rw [encode_quote, List.cons_append, run_cons, hbegin, List.append_assoc, run_append,
    run_escapes, List.append_nil]
  rw [List.reverse_reverse] at hclose
  exact hclose

/-- The members of an object behind those that have been read. -/
theorem run_compactMembers {members : Members}
    (hmembers : ∀ member ∈ members, Spells (Utf8.encode member.2.compact) (ofJson member.2))
    {mode : Mode} (hmode : mode = .name ∧ members ≠ [] ∨ mode = .memberOrClose)
    (read : List (List TextUnit × Outline)) (frames : List Frame) :
    run (.reading mode (.object read :: frames)) (Utf8.encode (compactMembers members)) =
      deliver (.object (read.reverse ++ ofMembers members) true) frames := by
  induction members generalizing mode read with
  | nil =>
    rcases hmode with ⟨-, hne⟩ | rfl
    · exact absurd rfl hne
    · rw [ofMembers, List.append_nil]
      rfl
  | cons member rest ih =>
    obtain ⟨key, value⟩ := member
    have hvalue := hmembers (key, value) List.mem_cons_self .value
      (.member (textOf key) read :: frames) (.inl rfl)
    have hname := run_name (hmode.imp_left And.left) read frames key
    cases rest with
    | nil =>
      have htail : Utf8.encode (':' :: (value.compact ++ ['}'])) =
          0x3A :: (Utf8.encode value.compact ++ [0x7D]) := by
        rw [Utf8.encode_cons, Utf8.encode_append]
        rfl
      have hread : read.reverse ++ ofMembers [(key, value)] =
          ((textOf key, ofJson value) :: read).reverse := by
        simp [ofMembers]
      rw [compactMembers, Utf8.encode_append, htail, hname, run_append,
        hvalue.run_cons (.inr (.inr (.inl rfl))), hread]
      rfl
    | cons next others =>
      have htail : Utf8.encode (':' :: (value.compact ++ ',' :: compactMembers (next :: others))) =
          0x3A :: (Utf8.encode value.compact ++
            0x2C :: Utf8.encode (compactMembers (next :: others))) := by
        rw [Utf8.encode_cons, Utf8.encode_append]
        rfl
      have hread : read.reverse ++ ofMembers ((key, value) :: next :: others) =
          ((textOf key, ofJson value) :: read).reverse ++ ofMembers (next :: others) := by
        simp [ofMembers]
      have hrest := ih (fun other hother => hmembers other (List.mem_cons_of_mem _ hother))
        (.inl ⟨rfl, List.cons_ne_nil next others⟩) ((textOf key, ofJson value) :: read)
      rw [compactMembers, Utf8.encode_append, htail, hname, run_append,
        hvalue.run_cons (.inl rfl), hread, ← hrest]
      rfl

/-! ## Compact texts -/

/-- Every compact text is read as the outline of its value. -/
theorem spells_compact (json : Json) : Spells (Utf8.encode json.compact) (ofJson json) := by
  induction json using Json.induct with
  | null => exact spells_null
  | bool value => exact spells_bool value
  | number value => exact spells_number value
  | string text => exact spells_string text
  | array items ih =>
    intro mode frames hmode
    have hopen : step (.reading mode frames) 0x5B =
        .reading .itemOrClose (.array [] :: frames) := by
      rcases hmode with rfl | rfl <;> rfl
    have hbytes : Utf8.encode ('[' :: compactItems items) =
        0x5B :: Utf8.encode (compactItems items) := rfl
    rw [compact, hbytes, run_cons, hopen, run_compactItems ih (.inr rfl), ofJson]
    exact .delivered
  | object members ih =>
    intro mode frames hmode
    have hopen : step (.reading mode frames) 0x7B =
        .reading .memberOrClose (.object [] :: frames) := by
      rcases hmode with rfl | rfl <;> rfl
    have hbytes : Utf8.encode ('{' :: compactMembers members) =
        0x7B :: Utf8.encode (compactMembers members) := rfl
    rw [compact, hbytes, run_cons, hopen, run_compactMembers ih (.inr rfl), ofJson]
    exact .delivered

/-- The outline of a compact text is that of its value, with nothing behind it. -/
theorem ofBytes_compact (json : Json) :
    ofBytes (Utf8.encode json.compact) = ⟨ofJson json, false⟩ :=
  (spells_compact json .value [] (.inl rfl)).finish_eq

/-! ## Controls -/

def NoControls (bytes : Bytes) : Prop := ∀ byte ∈ bytes, 0x20 ≤ byte.toNat

theorem NoControls.nil : NoControls [] := fun _ h => absurd h List.not_mem_nil

theorem NoControls.cons {byte : UInt8} {bytes : Bytes} (hbyte : 0x20 ≤ byte.toNat)
    (hbytes : NoControls bytes) : NoControls (byte :: bytes) :=
  List.forall_mem_cons.2 ⟨hbyte, hbytes⟩

theorem NoControls.append {first second : Bytes} (hfirst : NoControls first)
    (hsecond : NoControls second) : NoControls (first ++ second) :=
  List.forall_mem_append.2 ⟨hfirst, hsecond⟩

theorem noControls_encode {text : List Char} (h : ∀ character ∈ text, 0x20 ≤ character.toNat) :
    NoControls (Utf8.encode text) := by
  intro byte hbyte
  obtain ⟨character, hcharacter, hmem⟩ := List.mem_flatMap.1 hbyte
  have hcontrol := h character hcharacter
  rcases Utf8.toNat_of_mem_encodeChar hmem with hcode | hhigh <;> omega

theorem le_of_all {text : List Char} (h : text.all (0x20 ≤ ·.toNat) = true) :
    ∀ character ∈ text, 0x20 ≤ character.toNat :=
  fun character hcharacter => of_decide_eq_true (List.all_eq_true.1 h character hcharacter)

/-- Controls are escaped, and no character of an escape is one itself. -/
theorem le_of_mem_escape {character written : Char} (h : written ∈ Quoted.escape character) :
    0x20 ≤ written.toNat := by
  unfold Quoted.escape at h
  split at h
  iterate 7 exact le_of_all rfl written h
  split at h
  · rename_i hcontrol
    have hdigit : ∀ digit : Fin 16, 0x20 ≤ (Digit.lower digit.val).toNat := by decide
    have hhigh := hdigit ⟨character.toNat / 16, by omega⟩
    have hlow := hdigit ⟨character.toNat % 16, by omega⟩
    refine le_of_all ?_ written h
    simpa using ⟨hhigh, hlow⟩
  · rename_i hcontrol
    rw [List.mem_singleton.1 h]
    exact Nat.le_of_not_lt hcontrol

theorem noControls_quote (text : String) :
    NoControls (Utf8.encode (Quoted.quote text.toList)) := by
  have hescapes : NoControls (Utf8.encode (text.toList.flatMap Quoted.escape)) := by
    refine noControls_encode fun written hwritten => ?_
    obtain ⟨character, -, hmem⟩ := List.mem_flatMap.1 hwritten
    exact le_of_mem_escape hmem
  rw [encode_quote]
  exact .cons (by decide) (hescapes.append (.cons (by decide) .nil))

theorem noControls_of_run? {place last : NumberPlace} {bytes : Bytes}
    (h : place.run? bytes = some last) : NoControls bytes := by
  induction bytes generalizing place with
  | nil => exact .nil
  | cons byte rest ih =>
    obtain ⟨next, hnext, hrest⟩ := Option.bind_eq_some_iff.1 h
    refine .cons (Decidable.byContradiction fun hcontrol => ?_) (ih hrest)
    have hother : ∀ other : UInt8, 0x20 ≤ other.toNat → byte ≠ other := by
      rintro other hother rfl
      exact hcontrol hother
    have hdigit : Digit.isDecimalByte byte = false := by
      rw [Bool.eq_false_iff, ne_eq, Digit.isDecimalByte_iff]
      omega
    cases place <;> simp [NumberPlace.next?, hother, hdigit] at hnext

theorem noControls_number (value : Number) : NoControls (Utf8.encode value.text) := by
  obtain ⟨magnitude, ⟨last, hrun, -⟩, hplain | hsigned⟩ := NumberPlace.exists_isMagnitude value
  · rw [hplain]
    exact noControls_of_run? hrun
  · rw [hsigned]
    exact .cons (by decide) (noControls_of_run? hrun)

theorem noControls_compactItems {items : List Json}
    (h : ∀ item ∈ items, NoControls (Utf8.encode item.compact)) :
    NoControls (Utf8.encode (compactItems items)) := by
  induction items with
  | nil => exact .cons (by decide) .nil
  | cons item rest ih =>
    have hitem := h item List.mem_cons_self
    cases rest with
    | nil =>
      rw [compactItems, Utf8.encode_append]
      exact hitem.append (.cons (by decide) .nil)
    | cons next others =>
      rw [compactItems, Utf8.encode_append]
      exact hitem.append (.cons (by decide)
        (ih fun other hother => h other (List.mem_cons_of_mem item hother)))

theorem noControls_compactMembers {members : Members}
    (h : ∀ member ∈ members, NoControls (Utf8.encode member.2.compact)) :
    NoControls (Utf8.encode (compactMembers members)) := by
  induction members with
  | nil => exact .cons (by decide) .nil
  | cons member rest ih =>
    obtain ⟨key, value⟩ := member
    have hname := noControls_quote key
    have hvalue := h (key, value) List.mem_cons_self
    cases rest with
    | nil =>
      rw [compactMembers, Utf8.encode_append]
      refine hname.append (.cons (by decide) ?_)
      change NoControls (Utf8.encode (value.compact ++ ['}']))
      rw [Utf8.encode_append]
      exact hvalue.append (.cons (by decide) .nil)
    | cons next others =>
      rw [compactMembers, Utf8.encode_append]
      refine hname.append (.cons (by decide) ?_)
      change NoControls (Utf8.encode (value.compact ++ ',' :: compactMembers (next :: others)))
      rw [Utf8.encode_append]
      exact hvalue.append (.cons (by decide)
        (ih fun other hother => h other (List.mem_cons_of_mem _ hother)))

/-- No compact text holds a control, whatever its strings hold. -/
theorem noControls_compact (json : Json) : NoControls (Utf8.encode json.compact) := by
  induction json using Json.induct with
  | null => exact noControls_encode (le_of_all rfl)
  | bool value => cases value <;> exact noControls_encode (le_of_all rfl)
  | number value => exact noControls_number value
  | string text => exact noControls_quote text
  | array items ih => exact .cons (by decide) (noControls_compactItems ih)
  | object members ih => exact .cons (by decide) (noControls_compactMembers ih)

end DocBridge.Json.Outline
