/-!
# UTF-8

Bytes and characters.  Reading is a machine that takes one byte at a time, so that the strict
reader can say where and how a sequence fails and the lenient one can replace every maximal
broken sequence by U+FFFD.
-/

namespace DocBridge

/-- A finite byte string. -/
abbrev Bytes := List UInt8

namespace Utf8

/-- The bytes of a text, character by character. -/
def encode (text : List Char) : Bytes :=
  text.flatMap String.utf8EncodeChar

theorem encode_nil : encode [] = [] := rfl

theorem encode_cons (character : Char) (text : List Char) :
    encode (character :: text) = String.utf8EncodeChar character ++ encode text := rfl

theorem encode_append (first second : List Char) :
    encode (first ++ second) = encode first ++ encode second :=
  List.flatMap_append

theorem encode_ne_nil {text : List Char} (h : text ≠ []) : encode text ≠ [] := by
  obtain ⟨first, rest, rfl⟩ := List.exists_cons_of_ne_nil h
  rw [encode_cons]
  exact List.append_ne_nil_of_left_ne_nil String.utf8EncodeChar_ne_nil _

/-- An ASCII character is one byte. -/
theorem encodeChar_of_lt {character : Char} (h : character.toNat < 0x80) :
    String.utf8EncodeChar character = [UInt8.ofNat character.toNat] := by
  have hle : character.val.toNat ≤ 0x7F := Nat.le_of_lt_succ h
  simp only [String.utf8EncodeChar, hle, ↓reduceIte]
  rfl

/-- Any other character has no ASCII byte. -/
theorem le_of_mem_encodeChar {character : Char} (h : 0x80 ≤ character.toNat) {byte : UInt8}
    (hbyte : byte ∈ String.utf8EncodeChar character) : 0x80 ≤ byte.toNat := by
  have hlow : ¬ character.val.toNat ≤ 0x7F := Nat.not_le_of_gt h
  simp only [String.utf8EncodeChar, hlow, ↓reduceIte] at hbyte
  split at hbyte
  · simp only [List.mem_cons, List.not_mem_nil, or_false] at hbyte
    rcases hbyte with rfl | rfl <;> simp only [UInt8.toNat_ofNat'] <;> omega
  · split at hbyte
    · simp only [List.mem_cons, List.not_mem_nil, or_false] at hbyte
      rcases hbyte with rfl | rfl | rfl <;> simp only [UInt8.toNat_ofNat'] <;> omega
    · simp only [List.mem_cons, List.not_mem_nil, or_false] at hbyte
      rcases hbyte with rfl | rfl | rfl | rfl <;> simp only [UInt8.toNat_ofNat'] <;> omega

/-- A byte of a character is its code or no ASCII byte. -/
theorem toNat_of_mem_encodeChar {character : Char} {byte : UInt8}
    (hbyte : byte ∈ String.utf8EncodeChar character) :
    byte.toNat = character.toNat ∨ 0x80 ≤ byte.toNat := by
  rcases Nat.lt_or_ge character.toNat 0x80 with hascii | hwide
  · left
    rw [encodeChar_of_lt hascii, List.mem_singleton] at hbyte
    rw [hbyte, UInt8.toNat_ofNat']
    omega
  · right
    exact le_of_mem_encodeChar hwide hbyte

/-- A character that has begun: how many bytes are still owed, the range the next one has to
lie in, the bits collected so far and the number of bytes seen. -/
structure Pending where
  owed : Nat
  low : UInt8
  high : UInt8
  bits : Nat
  seen : Nat
deriving DecidableEq, Repr

/-- What one byte leads to. -/
inductive Progress where
  | complete (character : Char)
  | pending (state : Pending)
  | refused
deriving DecidableEq, Repr

/-- A byte between two characters. -/
def start (byte : UInt8) : Progress :=
  if byte < 0x80 then .complete (Char.ofNat byte.toNat)
  else if byte < 0xC2 then .refused
  else if byte < 0xE0 then .pending ⟨1, 0x80, 0xBF, byte.toNat - 0xC0, 1⟩
  else if byte = 0xE0 then .pending ⟨2, 0xA0, 0xBF, 0, 1⟩
  else if byte = 0xED then .pending ⟨2, 0x80, 0x9F, 0xD, 1⟩
  else if byte < 0xF0 then .pending ⟨2, 0x80, 0xBF, byte.toNat - 0xE0, 1⟩
  else if byte = 0xF0 then .pending ⟨3, 0x90, 0xBF, 0, 1⟩
  else if byte < 0xF4 then .pending ⟨3, 0x80, 0xBF, byte.toNat - 0xF0, 1⟩
  else if byte = 0xF4 then .pending ⟨3, 0x80, 0x8F, 4, 1⟩
  else .refused

/-- A byte inside a character. -/
def Pending.next (state : Pending) (byte : UInt8) : Progress :=
  if state.low ≤ byte && byte ≤ state.high then
    let bits := state.bits * 64 + (byte.toNat - 0x80)
    if state.owed ≤ 1 then .complete (Char.ofNat bits)
    else .pending ⟨state.owed - 1, 0x80, 0xBF, bits, state.seen + 1⟩
  else .refused

/-- A place where a byte string is not UTF-8.  The length is that of the longest sequence that
could have begun a character; it is absent when the bytes end inside one. -/
structure Fault where
  index : Nat
  length : Option Nat
deriving DecidableEq, Repr

def Fault.message (fault : Fault) : String :=
  match fault.length with
  | some length =>
    "invalid utf-8 sequence of " ++ toString length ++ " bytes from index " ++ toString fault.index
  | none => "incomplete utf-8 byte sequence from index " ++ toString fault.index

/-- Strict reading from the character that begins at `index`. -/
def decodeFrom : Nat → Option Pending → Bytes → Except Fault (List Char)
  | _, none, [] => .ok []
  | index, some _, [] => .error ⟨index, none⟩
  | index, none, byte :: rest =>
    match start byte with
    | .complete character => (character :: ·) <$> decodeFrom (index + 1) none rest
    | .pending state => decodeFrom index (some state) rest
    | .refused => .error ⟨index, some 1⟩
  | index, some state, byte :: rest =>
    match state.next byte with
    | .complete character => (character :: ·) <$> decodeFrom (index + state.seen + 1) none rest
    | .pending state => decodeFrom index (some state) rest
    | .refused => .error ⟨index, some state.seen⟩

/-- The characters of a byte string, or the first place where it is not UTF-8. -/
def decode (bytes : Bytes) : Except Fault (List Char) :=
  decodeFrom 0 none bytes

/-- The character that stands for a broken sequence. -/
def replacement : Char := '\uFFFD'

/-- Lenient reading: every maximal broken sequence becomes one `replacement`. -/
def decodeLossyFrom : Option Pending → Bytes → List Char
  | none, [] => []
  | some _, [] => [replacement]
  | none, byte :: rest =>
    match start byte with
    | .complete character => character :: decodeLossyFrom none rest
    | .pending state => decodeLossyFrom (some state) rest
    | .refused => replacement :: decodeLossyFrom none rest
  | some state, byte :: rest =>
    match state.next byte with
    | .complete character => character :: decodeLossyFrom none rest
    | .pending state => decodeLossyFrom (some state) rest
    | .refused =>
      match start byte with
      | .complete character => replacement :: character :: decodeLossyFrom none rest
      | .pending state => replacement :: decodeLossyFrom (some state) rest
      | .refused => replacement :: replacement :: decodeLossyFrom none rest

/-- The characters of any byte string, broken sequences replaced. -/
def decodeLossy (bytes : Bytes) : List Char :=
  decodeLossyFrom none bytes

end Utf8

def utf8Bytes (text : String) : Bytes :=
  Utf8.encode text.toList

/-- The string a byte string spells, if it is UTF-8. -/
def ofUtf8? (bytes : Bytes) : Option String :=
  match Utf8.decode bytes with
  | .ok characters => some (String.ofList characters)
  | .error _ => none

end DocBridge
