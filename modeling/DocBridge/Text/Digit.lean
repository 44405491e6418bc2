/-!
# Digits

The ASCII digits of the bases up to sixteen, as characters and as bytes, and the numbers that they
spell.  A digit that is written reads back, with a letter of either case.
-/

namespace DocBridge.Digit

def isDecimal (character : Char) : Bool := '0' ≤ character && character ≤ '9'

def isDecimalByte (byte : UInt8) : Bool := 0x30 ≤ byte && byte ≤ 0x39

/-- The value of a digit; letters of both cases follow the decimal digits. -/
def value? (character : Char) : Option Nat :=
  if isDecimal character then some (character.toNat - '0'.toNat)
  else if 'a' ≤ character && character ≤ 'f' then some (character.toNat - 'a'.toNat + 10)
  else if 'A' ≤ character && character ≤ 'F' then some (character.toNat - 'A'.toNat + 10)
  else none

/-- The value of a byte that is a digit. -/
def byteValue? (byte : UInt8) : Option Nat := value? (Char.ofNat byte.toNat)

/-- The value of a digit of one base. -/
def inBase? (base : Nat) (character : Char) : Option Nat := (value? character).filter (· < base)

/-- A number in a base, if every character is a digit of it. -/
def number? (base : Nat) (digits : List Char) : Option Nat :=
  digits.foldlM (fun value character => (value * base + ·) <$> inBase? base character) 0

/-- The digit of a number below sixteen, with a small letter. -/
def lower (n : Nat) : Char :=
  if n < 10 then Char.ofNat ('0'.toNat + n) else Char.ofNat ('a'.toNat + (n - 10))

/-- The digit of a number below sixteen, with a capital letter. -/
def upper (n : Nat) : Char :=
  if n < 10 then Char.ofNat ('0'.toNat + n) else Char.ofNat ('A'.toNat + (n - 10))

theorem value?_lower {n : Nat} (h : n < 16) : value? (lower n) = some n :=
  (by decide : ∀ digit : Fin 16, value? (lower digit.val) = some digit.val) ⟨n, h⟩

theorem value?_upper {n : Nat} (h : n < 16) : value? (upper n) = some n :=
  (by decide : ∀ digit : Fin 16, value? (upper digit.val) = some digit.val) ⟨n, h⟩

theorem isDecimal_iff {character : Char} :
    isDecimal character = true ↔ 0x30 ≤ character.toNat ∧ character.toNat ≤ 0x39 := by
  simp only [isDecimal, Bool.and_eq_true, decide_eq_true_eq]
  rfl

theorem isDecimalByte_iff {byte : UInt8} :
    isDecimalByte byte = true ↔ 0x30 ≤ byte.toNat ∧ byte.toNat ≤ 0x39 := by
  simp only [isDecimalByte, Bool.and_eq_true, decide_eq_true_eq]
  rfl

theorem isDecimalByte_ofNat {character : Char} (h : isDecimal character = true) :
    isDecimalByte (UInt8.ofNat character.toNat) = true := by
  have hbounds := isDecimal_iff.1 h
  rw [isDecimalByte_iff, UInt8.toNat_ofNat']
  omega

end DocBridge.Digit
