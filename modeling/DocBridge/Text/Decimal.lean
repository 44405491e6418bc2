import DocBridge.Text.Digit

/-!
# Decimal integers

Reading integers of a given range: an optional sign and at least one ASCII digit, nothing else.
-/

namespace DocBridge

/-- Why a text is no integer of a range. -/
inductive DecimalError where
  | empty
  | invalidDigit
  | tooLarge
  | tooSmall
deriving DecidableEq, Repr

def DecimalError.message : DecimalError → String
  | .empty => "cannot parse integer from empty string"
  | .invalidDigit => "invalid digit found in string"
  | .tooLarge => "number too large to fit in target type"
  | .tooSmall => "number too small to fit in target type"

namespace Decimal

def ofDigits (digits : List Char) : Nat :=
  digits.foldl (fun value digit => value * 10 + (digit.toNat - '0'.toNat)) 0

/-- Digits with their sign, within a range.  Digits that are already out of the range count before
a character that is no digit. -/
def ofSigned (negative : Bool) (low high : Int) (text : List Char) : Except DecimalError Int :=
  let digits := text.takeWhile Digit.isDecimal
  let n : Int := if negative then -(ofDigits digits : Int) else ofDigits digits
  if n < low then .error .tooSmall
  else if high < n then .error .tooLarge
  else if text.isEmpty || digits.length < text.length then .error .invalidDigit
  else .ok n

/-- The integer between two bounds that a text spells.  A minus sign is refused where no number is
negative. -/
def parse (low high : Int) (text : List Char) : Except DecimalError Int :=
  match text with
  | [] => .error .empty
  | '+' :: digits => ofSigned false low high digits
  | '-' :: digits =>
    if low < 0 then ofSigned true low high digits else ofSigned false low high text
  | _ => ofSigned false low high text

end Decimal

def parseInt32? (text : String) : Option Int32 :=
  match Decimal.parse (-0x80000000) 0x7FFFFFFF text.toList with
  | .ok n => some (Int32.ofInt n)
  | .error _ => none

end DocBridge
