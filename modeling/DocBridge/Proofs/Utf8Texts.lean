import DocBridge.Text.Utf8

/-!
# UTF-8 texts are read back

Both readers, the strict and the lenient one, find in the bytes of a text the text itself.  A
character is followed through the machine that they share: its first byte says how many more are
owed and which range the next one has to lie in, and every other byte adds six bits.
-/

namespace DocBridge.Utf8

/-- Bytes that complete a character that has begun. -/
inductive Completes (character : Char) : Pending → Bytes → Prop
  | last {state : Pending} {byte : UInt8} (hbyte : state.next byte = .complete character) :
      Completes character state [byte]
  | more {state next : Pending} {byte : UInt8} {rest : Bytes}
      (hbyte : state.next byte = .pending next) (hrest : Completes character next rest) :
      Completes character state (byte :: rest)

/-- Bytes that the machine takes for one character. -/
inductive Spells (character : Char) : Bytes → Prop
  | ascii {byte : UInt8} (hbyte : start byte = .complete character) : Spells character [byte]
  | wide {byte : UInt8} {state : Pending} {rest : Bytes} (hbyte : start byte = .pending state)
      (hrest : Completes character state rest) : Spells character (byte :: rest)

/-! ## One byte -/

theorem start_ascii : ∀ code : Fin 0x80,
    start (UInt8.ofNat code) = .complete (Char.ofNat code) := by decide

theorem start_two : ∀ high : Fin 30,
    start (UInt8.ofNat (high + 2 + 192)) = .pending ⟨1, 0x80, 0xBF, high + 2, 1⟩ := by decide

theorem start_three : ∀ high : Fin 16,
    start (UInt8.ofNat (high + 224)) =
      .pending ⟨2, if high = 0 then 0xA0 else 0x80, if high = 13 then 0x9F else 0xBF, high, 1⟩ := by
  decide

theorem start_four : ∀ high : Fin 5,
    start (UInt8.ofNat (high + 240)) =
      .pending ⟨3, if high = 0 then 0x90 else 0x80, if high = 4 then 0x8F else 0xBF, high, 1⟩ := by
  decide

/-- A byte inside a character adds six bits. -/
theorem next_tail {owed bits seen digit : Nat} {low high : UInt8} (hdigit : digit < 64)
    (hlow : low.toNat ≤ digit + 128) (hhigh : digit + 128 ≤ high.toNat) :
    Pending.next ⟨owed, low, high, bits, seen⟩ (UInt8.ofNat (digit + 128)) =
      if owed ≤ 1 then .complete (Char.ofNat (bits * 64 + digit))
      else .pending ⟨owed - 1, 0x80, 0xBF, bits * 64 + digit, seen + 1⟩ := by
  have hcode : (UInt8.ofNat (digit + 128)).toNat = digit + 128 := by
    rw [UInt8.toNat_ofNat']
    omega
  generalize UInt8.ofNat (digit + 128) = byte at hcode ⊢
  have hrange : low ≤ byte ∧ byte ≤ high := by
    rw [UInt8.le_iff_toNat_le, UInt8.le_iff_toNat_le, hcode]
    exact ⟨hlow, hhigh⟩
  have hdigit' : byte.toNat - 0x80 = digit := by omega
  simp only [Pending.next, hrange, hdigit', decide_true, Bool.and_self, if_true]

theorem low_tail (digit : Nat) : (0x80 : UInt8).toNat ≤ digit + 128 := Nat.le_add_left _ _

theorem high_tail {digit : Nat} (h : digit < 64) : digit + 128 ≤ (0xBF : UInt8).toNat := by
  change digit + 128 ≤ 191
  omega

/-! ## One character -/

theorem completes_last {character : Char} {bits seen digit : Nat} {low high : UInt8}
    (hdigit : digit < 64) (hlow : low.toNat ≤ digit + 128) (hhigh : digit + 128 ≤ high.toNat)
    (hcode : bits * 64 + digit = character.toNat) :
    Completes character ⟨1, low, high, bits, seen⟩ [UInt8.ofNat (digit + 128)] := by
  apply Completes.last
  rw [next_tail hdigit hlow hhigh, hcode, Char.ofNat_toNat]
  rfl

theorem completes_more {character : Char} {owed bits seen digit : Nat} {low high : UInt8}
    {rest : Bytes} (hdigit : digit < 64) (hlow : low.toNat ≤ digit + 128)
    (hhigh : digit + 128 ≤ high.toNat)
    (hrest : Completes character ⟨owed + 1, 0x80, 0xBF, bits * 64 + digit, seen + 1⟩ rest) :
    Completes character ⟨owed + 2, low, high, bits, seen⟩ (UInt8.ofNat (digit + 128) :: rest) := by
  refine Completes.more ?_ hrest
  rw [next_tail hdigit hlow hhigh]
  rfl

/-- The range of the second of three bytes leaves out the codes that two bytes spell and the
surrogates. -/
theorem three_range (high digit : Nat) (hhigh : high < 16) (hdigit : digit < 64)
    (hlow : 32 ≤ high * 64 + digit) (hsurrogate : high = 13 → digit < 32) :
    (if (⟨high, hhigh⟩ : Fin 16) = 0 then 0xA0 else 0x80 : UInt8).toNat ≤ digit + 128 ∧
      digit + 128 ≤ (if (⟨high, hhigh⟩ : Fin 16) = 13 then 0x9F else 0xBF : UInt8).toNat := by
  constructor
  · split
    · rename_i hzero
      have hvalue : high = 0 := congrArg Fin.val hzero
      change 160 ≤ digit + 128
      omega
    · exact low_tail digit
  · split
    · rename_i hlast
      have hvalue : high = 13 := congrArg Fin.val hlast
      have := hsurrogate hvalue
      change digit + 128 ≤ 159
      omega
    · exact high_tail hdigit

/-- The range of the second of four bytes leaves out the codes that three bytes spell and those
beyond the last. -/
theorem four_range (high digit : Nat) (hhigh : high < 5) (hdigit : digit < 64)
    (hlow : 16 ≤ high * 64 + digit) (hlast : high = 4 → digit < 16) :
    (if (⟨high, hhigh⟩ : Fin 5) = 0 then 0x90 else 0x80 : UInt8).toNat ≤ digit + 128 ∧
      digit + 128 ≤ (if (⟨high, hhigh⟩ : Fin 5) = 4 then 0x8F else 0xBF : UInt8).toNat := by
  constructor
  · split
    · rename_i hzero
      have hvalue : high = 0 := congrArg Fin.val hzero
      change 144 ≤ digit + 128
      omega
    · exact low_tail digit
  · split
    · rename_i hfour
      have hvalue : high = 4 := congrArg Fin.val hfour
      have := hlast hvalue
      change digit + 128 ≤ 143
      omega
    · exact high_tail hdigit

/-- The bytes of a character spell it, for each of the four lengths. -/
theorem spells_encodeChar (character : Char) :
    Spells character (String.utf8EncodeChar character) := by
  have hvalid : character.toNat < 0xD800 ∨ 0xDFFF < character.toNat ∧ character.toNat < 0x110000 :=
    character.valid
  have hsame : character.val.toNat = character.toNat := rfl
  simp only [String.utf8EncodeChar, hsame]
  obtain ⟨n, hn⟩ : ∃ n, n = character.toNat := ⟨_, rfl⟩
  rw [← hn] at hvalid ⊢
  have hone : n % 64 < 64 := Nat.mod_lt n (by decide)
  have htwo : n / 64 % 64 < 64 := Nat.mod_lt (n / 64) (by decide)
  have hthree : n / 4096 % 64 < 64 := Nat.mod_lt (n / 4096) (by decide)
  split
  · have hstart := start_ascii ⟨n, by omega⟩
    simp only [hn, Char.ofNat_toNat] at hstart
    rw [hn]
    exact .ascii hstart
  split
  · have hstart := start_two ⟨n / 64 - 2, by omega⟩
    have hfirst : n / 64 - 2 + 2 = n / 64 % 32 := by omega
    simp only [hfirst] at hstart
    exact .wide hstart (completes_last hone (low_tail _) (high_tail hone) (by omega))
  split
  · have hstart := start_three ⟨n / 4096 % 16, by omega⟩
    obtain ⟨hlow, hhigh⟩ := three_range (n / 4096 % 16) (n / 64 % 64) (by omega)
      htwo (by omega) (by omega)
    have hcode : (n / 4096 % 16 * 64 + n / 64 % 64) * 64 + n % 64 = n := by omega
    exact .wide hstart (completes_more htwo hlow hhigh
      (completes_last hone (low_tail _) (high_tail hone) (hcode.trans hn)))
  · have hstart := start_four ⟨n / 262144 % 8, by omega⟩
    obtain ⟨hlow, hhigh⟩ := four_range (n / 262144 % 8) (n / 4096 % 64) (by omega)
      hthree (by omega) (by omega)
    have hcode : ((n / 262144 % 8 * 64 + n / 4096 % 64) * 64 + n / 64 % 64) * 64 + n % 64 = n := by
      omega
    exact .wide hstart (completes_more hthree hlow hhigh
      (completes_more htwo (low_tail _) (high_tail htwo)
        (completes_last hone (low_tail _) (high_tail hone) (hcode.trans hn))))

/-! ## Texts -/

theorem Completes.decodeFrom {character : Char} {state : Pending} {bytes : Bytes}
    (h : Completes character state bytes) (index : Nat) (rest : Bytes) :
    ∃ next, Utf8.decodeFrom index (some state) (bytes ++ rest) =
      (character :: ·) <$> Utf8.decodeFrom next none rest := by
  induction h with
  | @last state byte hbyte => exact ⟨index + state.seen + 1, by simp [Utf8.decodeFrom, hbyte]⟩
  | more hbyte _ ih =>
    obtain ⟨next, hnext⟩ := ih
    exact ⟨next, by simp [Utf8.decodeFrom, hbyte, hnext]⟩

theorem Spells.decodeFrom {character : Char} {bytes : Bytes} (h : Spells character bytes)
    (index : Nat) (rest : Bytes) :
    ∃ next, Utf8.decodeFrom index none (bytes ++ rest) =
      (character :: ·) <$> Utf8.decodeFrom next none rest := by
  cases h with
  | ascii hbyte => exact ⟨index + 1, by simp [Utf8.decodeFrom, hbyte]⟩
  | wide hbyte hrest =>
    obtain ⟨next, hnext⟩ := hrest.decodeFrom index rest
    exact ⟨next, by simp [Utf8.decodeFrom, hbyte, hnext]⟩

/-- A text is decoded from its own bytes, wherever they begin. -/
theorem decodeFrom_encode (index : Nat) (text : List Char) :
    decodeFrom index none (encode text) = .ok text := by
  induction text generalizing index with
  | nil => rfl
  | cons character rest ih =>
    obtain ⟨next, hnext⟩ := (spells_encodeChar character).decodeFrom index (encode rest)
    rw [encode_cons, hnext, ih next]
    rfl

/-- The bytes of a text are UTF-8 and stand for the text. -/
theorem decode_encode (text : List Char) : decode (encode text) = .ok text :=
  decodeFrom_encode 0 text

theorem Completes.decodeLossyFrom {character : Char} {state : Pending} {bytes : Bytes}
    (h : Completes character state bytes) (rest : Bytes) :
    Utf8.decodeLossyFrom (some state) (bytes ++ rest) =
      character :: Utf8.decodeLossyFrom none rest := by
  induction h with
  | last hbyte => simp [Utf8.decodeLossyFrom, hbyte]
  | more hbyte _ ih => simp [Utf8.decodeLossyFrom, hbyte, ih]

theorem Spells.decodeLossyFrom {character : Char} {bytes : Bytes} (h : Spells character bytes)
    (rest : Bytes) :
    Utf8.decodeLossyFrom none (bytes ++ rest) = character :: Utf8.decodeLossyFrom none rest := by
  cases h with
  | ascii hbyte => simp [Utf8.decodeLossyFrom, hbyte]
  | wide hbyte hrest => simp [Utf8.decodeLossyFrom, hbyte, hrest.decodeLossyFrom]

/-- Nothing is replaced in the bytes of a text. -/
theorem decodeLossy_encode (text : List Char) : decodeLossy (encode text) = text := by
  unfold decodeLossy
  induction text with
  | nil => rfl
  | cons character rest ih =>
    rw [encode_cons, (spells_encodeChar character).decodeLossyFrom, ih]

end DocBridge.Utf8

namespace DocBridge

theorem ofUtf8?_utf8Bytes (text : String) : ofUtf8? (utf8Bytes text) = some text := by
  rw [ofUtf8?, utf8Bytes, Utf8.decode_encode]
  exact congrArg some String.ofList_toList

end DocBridge
