import DocBridge.Decimal.Binary64

/-!
# Shortest decimals

The decimal digits of a double: of all decimals that round back to it, those with the fewest
digits, and of those the nearest.  `Binary64.text` lays the digits out the way JSON output has
them.
-/

namespace DocBridge

/-- The decimal notation `0.d₁d₂…dₙ · 10^point`. -/
structure Digits where
  digits : List Nat
  point : Int
deriving DecidableEq, Repr

/-- The characters of a list of digits. -/
def Digits.chars (digits : List Nat) : List Char :=
  digits.map fun digit => Char.ofNat ('0'.toNat + digit)

/-- Positional notation from `0.00001` up to below `10 ^ 16`, always with a fraction; otherwise
one digit before the point and a signed exponent. -/
def Digits.layout (decimal : Digits) : List Char :=
  let digits := chars decimal.digits
  let length : Int := digits.length
  if 0 < decimal.point && decimal.point ≤ 16 then
    if length ≤ decimal.point then
      digits ++ List.replicate (decimal.point - length).toNat '0' ++ ['.', '0']
    else
      digits.take decimal.point.toNat ++ '.' :: digits.drop decimal.point.toNat
  else if -5 < decimal.point && decimal.point ≤ 0 then
    '0' :: '.' :: List.replicate (-decimal.point).toNat '0' ++ digits
  else
    let exponent := decimal.point - 1
    let sign := if exponent < 0 then '-' else '+'
    let mantissa := match digits with
      | [] => []
      | [digit] => [digit]
      | digit :: rest => digit :: '.' :: rest
    mantissa ++ 'e' :: sign :: Nat.toDigits 10 exponent.natAbs

namespace Binary64

/-- The bounds of the reals that round to a positive double, over the denominator
`2 ^ 1076`, and whether they round to it themselves. -/
structure Interval where
  low : Nat
  value : Nat
  high : Nat
  closed : Bool

/-- A double owns half the gap to either neighbour; the gap below a power of two is half as
wide. -/
def interval (x : Binary64) : Interval :=
  let unit := Nat.pow 2 x.scale
  let below := if x.fraction.val = 0 ∧ 1 < x.exponent.val then unit else 2 * unit
  let value := 4 * (x.significand * unit)
  ⟨value - below, value, value + 2 * unit, x.significand % 2 = 0⟩

/-- Whether a fraction over the interval's denominator rounds to the double. -/
def Interval.contains (bounds : Interval) (numerator denominator : Nat) : Bool :=
  if bounds.closed then
    bounds.low * denominator ≤ numerator && numerator ≤ bounds.high * denominator
  else
    bounds.low * denominator < numerator && numerator < bounds.high * denominator

/-- The position of the decimal point: the least `point` with `value < 10 ^ point`, counted up
from `start`. -/
def pointFrom (value : Nat) (start : Int) : Nat → Int
  | 0 => start
  | fuel + 1 =>
    let below :=
      if 0 ≤ start then value < Nat.pow 10 start.toNat * Nat.pow 2 1076
      else value * Nat.pow 10 (-start).toNat < Nat.pow 2 1076
    if below then start else pointFrom value (start + 1) fuel

/-- The grid of decimals with `count` digits: the value and the interval scaled so that grid
points are whole numbers over `denominator`. -/
def gridHit (bounds : Interval) (point : Int) (count : Nat) : Option Nat :=
  let exponent := (count : Int) - point
  let up := if 0 ≤ exponent then Nat.pow 10 exponent.toNat else 1
  let down := if 0 ≤ exponent then 1 else Nat.pow 10 (-exponent).toNat
  let unit := down * Nat.pow 2 1076
  let scaled := bounds.value * up
  let floor := scaled / unit
  let low := bounds.contains (floor * unit) up
  let high := bounds.contains ((floor + 1) * unit) up
  let nearer := Binary64.roundHalfEven scaled unit
  if low && high then some nearer
  else if low then some floor
  else if high then some (floor + 1)
  else none

/-- The first grid with a hit, beginning with `count` digits. -/
def shortestFrom (bounds : Interval) (point : Int) (count : Nat) : Nat → Nat × Nat
  | 0 => (bounds.value, count)
  | fuel + 1 =>
    match gridHit bounds point count with
    | some digits => (digits, count)
    | none => shortestFrom bounds point (count + 1) fuel

def decimalDigits (n : Nat) : List Nat :=
  (Nat.toDigits 10 n).map fun digit => digit.toNat - '0'.toNat

def dropTrailingZeros (digits : List Nat) : List Nat :=
  (digits.reverse.dropWhile (· == 0)).reverse

/-- The shortest decimal of a positive double. -/
def shortest (x : Binary64) : Digits :=
  let bounds := x.interval
  let start := (((bounds.value.log2 : Int) - 1076) * 30102 - 100000) / 100000
  let point := pointFrom bounds.value start 8
  let (number, count) := shortestFrom bounds point 1 17
  let digits := decimalDigits number
  ⟨dropTrailingZeros digits, point + ((digits.length : Int) - (count : Int))⟩

def text (x : Binary64) : List Char :=
  let magnitude := if x.isZero then ['0', '.', '0'] else x.shortest.layout
  if x.negative then '-' :: magnitude else magnitude

end Binary64

end DocBridge
