import DocBridge.Text.Split

/-!
# Punycode

The ASCII form of a label with other characters: its ASCII characters, then the others in the order
of their numbers, each as the distance from the one before in digits of a base of thirty-six whose
thresholds adapt to the distances seen.
-/

namespace DocBridge.Url.Punycode

/-- The character of a digit: letters, then decimal digits. -/
def digitChar (digit : Nat) : Char :=
  if digit < 26 then Char.ofNat ('a'.toNat + digit) else Char.ofNat ('0'.toNat + (digit - 26))

def digitValue? (character : Char) : Option Nat :=
  if 'a' ≤ character ∧ character ≤ 'z' then some (character.toNat - 'a'.toNat)
  else if 'A' ≤ character ∧ character ≤ 'Z' then some (character.toNat - 'A'.toNat)
  else if '0' ≤ character ∧ character ≤ '9' then some (character.toNat - '0'.toNat + 26)
  else none

/-- The threshold of a digit at a position that is a multiple of thirty-six. -/
def threshold (position bias : Nat) : Nat := max 1 (min 26 (position - bias))

/-- How often a distance is divided before it is small, and what is left of it. -/
def reduce (distance count : Nat) : Nat → Nat × Nat
  | 0 => (distance, count)
  | fuel + 1 =>
    if 455 < distance then reduce (distance / 35) (count + 1) fuel else (distance, count)

/-- The bias after a distance.  The first one counts less. -/
def adapt (distance handled : Nat) (isFirst : Bool) : Nat :=
  let damped := if isFirst then distance / 700 else distance / 2
  let spread := damped + damped / handled
  let (rest, count) := reduce spread 0 spread
  36 * count + 36 * rest / (rest + 38)

/-- The digits of a distance, from the given position on. -/
def digits (bias : Nat) (position distance : Nat) : Nat → List Char
  | 0 => []
  | fuel + 1 =>
    let limit := threshold position bias
    if distance < limit then [digitChar distance]
    else
      digitChar (limit + (distance - limit) % (36 - limit)) ::
        digits bias (position + 36) ((distance - limit) / (36 - limit)) fuel

/-- The state of an encoder between two characters. -/
structure Encoder where
  written : List Char
  distance : Nat
  bias : Nat
  handled : Nat

/-- Passes over one character of the label while the characters numbered `current` are written. -/
def Encoder.pass (plain current : Nat) (encoder : Encoder) (character : Char) : Encoder :=
  if character.toNat < current then { encoder with distance := encoder.distance + 1 }
  else if character.toNat = current then
    { written := encoder.written ++ digits encoder.bias 36 encoder.distance (encoder.distance + 1)
      distance := 0
      bias := adapt encoder.distance (encoder.handled + 1) (encoder.handled = plain)
      handled := encoder.handled + 1 }
  else encoder

/-- Writes the characters of the given numbers, which are in increasing order from `next` on. -/
def writeAll (label : List Char) (plain : Nat) :
    List Nat → Nat → Encoder → Encoder
  | [], _, encoder => encoder
  | current :: rest, next, encoder =>
    let reached := { encoder with
      distance := encoder.distance + (current - next) * (encoder.handled + 1) }
    let passed := label.foldl (Encoder.pass plain current) reached
    writeAll label plain rest (current + 1) { passed with distance := passed.distance + 1 }

def encode (label : List Char) : List Char :=
  let plain := label.filter fun character => character.toNat < 0x80
  let others := ((label.filter fun character => 0x80 ≤ character.toNat).map Char.toNat).mergeSort
  let encoder := writeAll label plain.length others.eraseDups 0x80 ⟨[], 0, 72, plain.length⟩
  (if plain.isEmpty then [] else plain ++ ['-']) ++ encoder.written

/-- Reads the digits of one distance and adds it to a value: the sum and what follows.  No number on
the way is as large as two to the thirty-second. -/
def readDistance (bias : Nat) (position weight value : Nat) :
    List Char → Option (Nat × List Char)
  | [] => none
  | character :: rest => do
    let digit ← digitValue? character
    let limit := threshold position bias
    let value := value + digit * weight
    if UInt32.size ≤ value then none
    else if digit < limit then some (value, rest)
    else if UInt32.size ≤ weight * (36 - limit) then none
    else readDistance bias (position + 36) (weight * (36 - limit)) value rest

/-- Inserts the characters whose distances are left into a label. -/
def readAll (label : List Char) (isFirst : Bool) (next index bias : Nat) (rest : List Char) :
    Nat → Option (List Char)
  | 0 => none
  | fuel + 1 =>
    if rest.isEmpty then some label
    else do
      let (place, rest) ← readDistance bias 36 1 index rest
      let count := label.length + 1
      let number := next + place / count
      if number.isValidChar then
        readAll (label.take (place % count) ++ Char.ofNat number :: label.drop (place % count))
          false number (place % count + 1) (adapt (place - index) count isFirst) rest fuel
      else none

/-- The label of an encoding.  A delimiter follows at least one character. -/
def decode? (text : List Char) : Option (List Char) :=
  match splitLast (· == '-') text with
  | (some [], _) => none
  | (plain, coded) =>
    let plain := plain.getD []
    if plain.all fun character => character.toNat < 0x80 then
      readAll plain true 0x80 0 72 coded (coded.length + 1)
    else none

end DocBridge.Url.Punycode
