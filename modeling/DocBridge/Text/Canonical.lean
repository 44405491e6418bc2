import DocBridge.Text.CombiningTable
import DocBridge.Text.CompositeTable

/-!
# Composed form

A letter with marks can be one character or several, and the marks can stand in more than one order.
In its composed form a text is written in one way only: every character is taken apart, the marks
behind a letter are put into the order of their classes, and what has a character of its own is put
together.
-/

namespace DocBridge.Canonical

/-! ## Syllables

A syllable of Hangul is a leading letter, a vowel and perhaps a trailing letter, of which there are
nineteen, twenty-one and twenty-seven.  The syllables are numbered in the order of their letters. -/

/-- The letters of a syllable. -/
def syllableParts? (code : Nat) : Option (List Nat) :=
  if 0xAC00 ≤ code ∧ code ≤ 0xD7A3 then
    let place := code - 0xAC00
    let pair := [0x1100 + place / 588, 0x1161 + place % 588 / 28]
    some (if place % 28 = 0 then pair else pair ++ [0x11A7 + place % 28])
  else none

/-- The syllable of two letters, or of a syllable without a trailing letter and such a letter. -/
def syllable? (first second : Nat) : Option Nat :=
  if 0x1100 ≤ first ∧ first ≤ 0x1112 ∧ 0x1161 ≤ second ∧ second ≤ 0x1175 then
    some (0xAC00 + ((first - 0x1100) * 21 + (second - 0x1161)) * 28)
  else if 0xAC00 ≤ first ∧ first ≤ 0xD7A3 ∧ (first - 0xAC00) % 28 = 0 ∧
      0x11A8 ≤ second ∧ second ≤ 0x11C2 then
    some (first + (second - 0x11A7))
  else none

/-! ## Taking apart -/

/-- How deep composites are nested. -/
def maxDepth : Nat := 3

/-- The parts of a composite whose first part is nested at most so deep. -/
def compositeParts : Nat → Nat → List Nat
  | 0, code => [code]
  | depth + 1, code =>
    match CompositeTable.composites.find? fun composite => composite.code = code with
    | some composite => compositeParts depth composite.first ++ [composite.second]
    | none => [code]

def parts (character : Char) : List Char :=
  if character.toNat < 0xC0 then [character]
  else
    match syllableParts? character.toNat with
    | some codes => codes.map Char.ofNat
    | none =>
      match Stretch.find? CompositeTable.variants character with
      | some ideograph => ideograph
      | none =>
        match CompositeTable.expansions.find? fun expansion => expansion.1 = character.toNat with
        | some (_, codes) => codes.map Char.ofNat
        | none => (compositeParts maxDepth character.toNat).map Char.ofNat

/-! ## Order of marks -/

/-- A character with its combining class. -/
structure Classed where
  character : Char
  level : Nat := CombiningTable.classOf character

/-- Puts a mark behind the marks of lower classes. -/
def place (mark : Classed) : List Classed → List Classed
  | [] => [mark]
  | next :: rest =>
    if 0 < next.level ∧ next.level < mark.level then next :: place mark rest
    else mark :: next :: rest

/-- Puts the marks behind every letter into the order of their classes. -/
def arrange (text : List Classed) : List Classed := text.foldr place []

/-! ## Putting together -/

/-- The character that takes the place of two. -/
def joined? (first second : Char) : Option Char :=
  match syllable? first.toNat second.toNat with
  | some code => some (Char.ofNat code)
  | none =>
    (CompositeTable.composites.find? fun composite =>
      composite.first = first.toNat ∧ composite.second = second.toNat).map
      fun composite => Char.ofNat composite.code

/-- Joins a letter with what follows it.  `kept` are the marks in between that did not join, the
last one first: a character joins past them only if its class is higher than theirs. -/
def composeFrom (letter : Char) (kept : List Classed) : List Classed → List Char
  | [] => letter :: (kept.reverse.map Classed.character)
  | next :: rest =>
    match if kept.all fun mark => mark.level < next.level then joined? letter next.character
        else none with
    | some both => composeFrom both kept rest
    | none =>
      if next.level = 0 then
        letter :: (kept.reverse.map Classed.character ++ composeFrom next.character [] rest)
      else composeFrom letter (next :: kept) rest

/-- Joins every letter with what follows it. -/
def compose : List Classed → List Char
  | [] => []
  | next :: rest =>
    if next.level = 0 then composeFrom next.character [] rest
    else next.character :: compose rest

def composed (text : List Char) : List Char :=
  compose (arrange ((text.flatMap parts).map fun character => { character }))

end DocBridge.Canonical
