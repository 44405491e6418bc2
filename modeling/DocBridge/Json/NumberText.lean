import DocBridge.Json.Basic
import DocBridge.Text.Digit
import DocBridge.Text.Utf8

/-!
# Numbers of JSON texts

What a number's text stands for.  Its digits make one significand below `2 ^ 64`: digits are taken
in as long as they fit, later ones only move the decimal point or are dropped.  A text without
fraction and exponent whose digits all fit is an integer; any other number is the significand,
as a double, multiplied or divided by a power of ten with one rounding each.
-/

namespace DocBridge.Number

/-- The parts of a number's text. -/
structure Parts where
  negative : Bool
  whole : List Nat
  fraction : Option (List Nat)
  exponent : Option Int
deriving Repr

def digitValue (byte : UInt8) : Nat := byte.toNat - 0x30

def ofDigits (digits : List Nat) : Nat := digits.foldl (fun value digit => value * 10 + digit) 0

/-- The exponent behind its mark. -/
def exponentOf (bytes : Bytes) : Int :=
  match bytes with
  | 0x2D :: rest => -(ofDigits (rest.map digitValue) : Int)
  | 0x2B :: rest => ofDigits (rest.map digitValue)
  | rest => ofDigits (rest.map digitValue)

/-- Splits a well-formed number text. -/
def Parts.ofText (bytes : Bytes) : Parts :=
  let negative := bytes.head? == some 0x2D
  let unsigned := if negative then bytes.drop 1 else bytes
  let whole := unsigned.takeWhile Digit.isDecimalByte
  let afterWhole := unsigned.dropWhile Digit.isDecimalByte
  let hasPoint := afterWhole.head? == some 0x2E
  let behindPoint := if hasPoint then afterWhole.drop 1 else afterWhole
  let fraction := if hasPoint then some (behindPoint.takeWhile Digit.isDecimalByte) else none
  let afterFraction := if hasPoint then behindPoint.dropWhile Digit.isDecimalByte else afterWhole
  { negative
    whole := whole.map digitValue
    fraction := fraction.map (·.map digitValue)
    exponent := if afterFraction.isEmpty then none else some (exponentOf (afterFraction.drop 1)) }

/-- A significand, and by how many places the digits counted after it move the decimal point. -/
structure Significand where
  value : Nat
  shift : Int
deriving Repr

/-- Takes in the digits before the point.  From the first digit that does not fit on, digits are
only counted. -/
def Significand.whole (digits : List Nat) : Significand :=
  digits.foldl (fun taken digit =>
    if taken.shift = 0 ∧ taken.value * 10 + digit < UInt64.size then
      ⟨taken.value * 10 + digit, 0⟩
    else ⟨taken.value, taken.shift + 1⟩) ⟨0, 0⟩

/-- Takes in the digits behind the point, up to the first one that does not fit. -/
def Significand.fraction (taken : Significand) : List Nat → Significand
  | [] => taken
  | digit :: rest =>
    if taken.value * 10 + digit < UInt64.size then
      Significand.fraction ⟨taken.value * 10 + digit, taken.shift - 1⟩ rest
    else taken

def powerOfTen (exponent : Nat) : Binary64 := .ofInt (Nat.pow 10 exponent)

/-- Divides by `10 ^ 308` as often as said, or until nothing is left. -/
def shrink (x : Binary64) : Nat → Option Binary64
  | 0 => some x
  | count + 1 =>
    if x.isZero then some x
    else (x.div? (powerOfTen 308)).bind fun quotient => shrink quotient count

/-- A double of any sign times a power of ten; there is none beyond the largest double.  Below
`10 ^ (-308)` the division is made in steps. -/
def scale (x : Binary64) (exponent : Int) : Option Binary64 :=
  if 0 ≤ exponent then
    if exponent ≤ 308 then x.mul? (powerOfTen exponent.toNat)
    else if x.isZero then some x
    else none
  else
    let steps := (exponent.natAbs - 1) / 308
    match shrink x steps with
    | some rest => rest.div? (powerOfTen (exponent.natAbs - 308 * steps))
    | none => none

/-- What the parts stand for; none if the number is beyond the range of doubles. -/
def Parts.value? (parts : Parts) : Option Number :=
  let whole := Significand.whole parts.whole
  let signed : Int := if parts.negative then -(whole.value : Int) else whole.value
  let isInteger := parts.fraction.isNone && parts.exponent.isNone && whole.shift = 0
  match WideInt.ofInt? signed with
  | some fitting =>
    if isInteger && !(parts.negative && whole.value = 0) then some (.integer fitting)
    else double whole
  | none => double whole
where
  /-- The number as a double. -/
  double (whole : Significand) : Option Number :=
    let taken := whole.fraction (parts.fraction.getD [])
    let exponent := taken.shift + parts.exponent.getD 0
    (scale (.ofInt taken.value) exponent).map fun magnitude =>
      .double (magnitude.withSign parts.negative)

/-- The number that a text spells, none if it is beyond the range of doubles. -/
def ofText? (bytes : Bytes) : Option Number := (Parts.ofText bytes).value?

end DocBridge.Number
