/-!
# Finite doubles

A double is kept as its sign, its biased exponent and its fraction, so that every value of the
type is one finite double and all arithmetic on it is exact arithmetic on natural numbers followed
by one rounding.
-/

namespace DocBridge

/-- How many fractions there are: those of fifty-two bits. -/
abbrev Binary64.fractionCount : Nat := 0x10000000000000

/-- A finite IEEE 754 double. -/
structure Binary64 where
  negative : Bool
  exponent : Fin 2047
  fraction : Fin Binary64.fractionCount
deriving DecidableEq, Repr

namespace Binary64

def zero (negative : Bool) : Binary64 := ⟨negative, 0, 0⟩

def isZero (x : Binary64) : Bool := x.exponent.val == 0 && x.fraction.val == 0

/-- The integer that `scale` powers of two turn into the magnitude. -/
def significand (x : Binary64) : Nat :=
  if x.exponent.val = 0 then x.fraction.val else fractionCount + x.fraction.val

/-- The power of two that the significand counts, raised by 1074 so that it is a natural
number. -/
def scale (x : Binary64) : Nat := x.exponent.val - 1

/-- The magnitude as an exact fraction. -/
def ratio (x : Binary64) : Nat × Nat :=
  (x.significand * Nat.pow 2 x.scale, Nat.pow 2 1074)

/-- The bit pattern without the sign.  Magnitudes are ordered as their bit patterns are. -/
def ofMagnitudeBits? (negative : Bool) (bits : Nat) : Option Binary64 :=
  if h : bits / fractionCount < 2047 then
    some ⟨negative, ⟨bits / fractionCount, h⟩, ⟨bits % fractionCount, Nat.mod_lt _ (by decide)⟩⟩
  else none

/-- The integer nearest to a fraction; of two that are equally near, the even one. -/
def roundHalfEven (numerator denominator : Nat) : Nat :=
  let quotient := numerator / denominator
  let twice := 2 * (numerator % denominator)
  if twice < denominator then quotient
  else if denominator < twice then quotient + 1
  else quotient + quotient % 2

/-- The double nearest to a fraction, ties to the even significand.  There is none above the
largest finite double. -/
def ofRatio? (negative : Bool) (numerator denominator : Nat) : Option Binary64 :=
  if numerator = 0 then some (zero negative)
  else
    let raised := numerator * Nat.pow 2 1074
    let estimate := (raised.log2 - denominator.log2) - 53
    let shift :=
      if raised / (denominator * Nat.pow 2 estimate) < 2 * fractionCount then estimate
      else estimate + 1
    ofMagnitudeBits? negative
      (shift * fractionCount + roundHalfEven raised (denominator * Nat.pow 2 shift))

def largest (negative : Bool) : Binary64 :=
  ⟨negative, ⟨2046, by decide⟩, ⟨fractionCount - 1, by decide⟩⟩

/-- The double nearest to an integer; one beyond the range of doubles gives the largest. -/
def ofInt (n : Int) : Binary64 :=
  (ofRatio? (n < 0) n.natAbs 1).getD (largest (n < 0))

/-- The product, rounded once. -/
def mul? (x y : Binary64) : Option Binary64 :=
  ofRatio? (x.negative != y.negative) (x.ratio.1 * y.ratio.1) (x.ratio.2 * y.ratio.2)

/-- The quotient by a value that is not zero, rounded once. -/
def div? (x y : Binary64) : Option Binary64 :=
  ofRatio? (x.negative != y.negative) (x.ratio.1 * y.ratio.2) (x.ratio.2 * y.ratio.1)

/-- The integer part, toward zero. -/
def truncate (x : Binary64) : Int :=
  let magnitude : Int := (x.ratio.1 / x.ratio.2 : Nat)
  if x.negative then -magnitude else magnitude

def withSign (x : Binary64) (negative : Bool) : Binary64 := { x with negative }

end Binary64

end DocBridge
