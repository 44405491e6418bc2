import DocBridge.Text.Split

/-!
# Tables of characters

Three shapes in which a property of many characters is written down: ranges of those that have it,
distances to the character that one stands for, and the words that consecutive characters stand for.
-/

namespace DocBridge

/-- Whether a character lies in one of some ranges. -/
def isWithin (ranges : List (Nat × Nat)) (character : Char) : Bool :=
  ranges.any fun range => range.1 ≤ character.toNat && character.toNat ≤ range.2

/-- Characters that share the distance to another: every `stride`-th one from `first` to `last`. -/
structure Shift where
  first : Nat
  last : Nat
  stride : Nat
  distance : Int

/-- The character at the distance that a table has for one. -/
def Shift.find? (table : List Shift) (character : Char) : Option Char :=
  (table.find? fun shift =>
    shift.first ≤ character.toNat && character.toNat ≤ shift.last &&
      (character.toNat - shift.first) % shift.stride == 0).map
    fun shift => Char.ofNat ((character.toNat : Int) + shift.distance).toNat

/-- The characters from `first` to `last` and a word for each, with a space between two. -/
structure Stretch where
  first : Nat
  last : Nat
  words : String

/-- The word that a table has for a character. -/
def Stretch.find? (table : List Stretch) (character : Char) : Option (List Char) :=
  match table.find? fun stretch =>
      stretch.first ≤ character.toNat && character.toNat ≤ stretch.last with
  | some stretch =>
    (splitAll (· == ' ') stretch.words.toList)[character.toNat - stretch.first]?
  | none => none

end DocBridge
