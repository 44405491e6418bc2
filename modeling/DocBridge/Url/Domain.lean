import DocBridge.Text.BidiTable
import DocBridge.Text.Canonical
import DocBridge.Text.JoiningTable
import DocBridge.Text.Lowercase
import DocBridge.Text.MarkTable
import DocBridge.Text.PrintTable
import DocBridge.Url.DomainTable
import DocBridge.Url.Punycode

/-!
# Domain names

The ASCII form of a domain name.  Its characters are read as others first, so that names that are
taken for the same one are the same.  Then every label between dots is checked, and written in
Punycode if it is not ASCII.  A label that comes in Punycode has to stand for one that could have
come without it.
-/

namespace DocBridge.Url.Domain

def isAscii (character : Char) : Bool := character.toNat < 0x80

/-! ## Reading -/

/-- Whether no domain name may hold a character from U+0080 on. -/
def isRefused (character : Char) : Bool :=
  isWithin DomainTable.refused character ||
    (isWithin PrintTable.shapeless character && !MarkTable.isMark character &&
      !isWithin DomainTable.shapeless character)

/-- The characters that one without parts is read as. -/
def readPart? (character : Char) : Option (List Char) :=
  if isAscii character then some [character.toLower]
  else if isWithin DomainTable.ignored character then some []
  else
    match Shift.find? DomainTable.shifts character with
    | some other => some [other]
    | none =>
      match Stretch.find? DomainTable.words character with
      | some word => some word
      | none => if isRefused character then none else some (Lowercase.ofChar character)

def read? (text : List Char) : Option (List Char) :=
  if text.all isAscii then some (text.map Char.toLower)
  else
    ((text.flatMap Canonical.parts).mapM readPart?).map fun words =>
      Canonical.composed words.flatten

/-! ## Joiners -/

def nonJoiner : Char := '\u200C'

def joiner : Char := '\u200D'

/-- Whether the first character that parts letters exists and passes a test. -/
def meets (test : Char → Bool) (text : List Char) : Bool :=
  match text.dropWhile JoiningTable.isTransparent with
  | character :: _ => test character
  | [] => false

/-- Whether a joiner may stand between two texts, of which the first is given in reverse. -/
def mayStand (mark : Char) (before behind : List Char) : Bool :=
  match before with
  | [] => false
  | previous :: _ =>
    CombiningTable.classOf previous == CombiningTable.virama ||
      (mark == nonJoiner && meets JoiningTable.joinsBehind before &&
        meets JoiningTable.joinsBefore behind)

/-- Whether all joiners of a text may stand where they do, behind a text in reverse. -/
def joinersStand (before : List Char) : List Char → Bool
  | [] => true
  | character :: rest =>
    ((character != nonJoiner && character != joiner) || mayStand character before rest) &&
      joinersStand (character :: before) rest

/-! ## Labels -/

/-- A label as it is read, and its ASCII form. -/
structure Label where
  characters : List Char
  ascii : List Char

def maxLength : Nat := 1000

def maxCodeLength : Nat := 2000

/-- Whether a label that is not ASCII can be part of a domain name. -/
def isSound (characters : List Char) : Bool :=
  !characters.head?.any MarkTable.isMark && joinersStand [] characters &&
    characters.length ≤ maxLength

/-- The label of Punycode: one that needs it, and that is read as it is. -/
def codedLabel? (code : List Char) : Option (List Char) :=
  if code.all isAscii && code.length ≤ maxCodeLength then
    (Punycode.decode? code).filter fun characters =>
      !characters.all isAscii && read? characters == some characters && isSound characters
  else none

def label? (text : List Char) : Option Label :=
  match text with
  | 'x' :: 'n' :: '-' :: '-' :: code => (codedLabel? code).map fun characters => ⟨characters, text⟩
  | _ =>
    if text.all isAscii then some ⟨text, text⟩
    else if isSound text then some ⟨text, 'x' :: 'n' :: '-' :: '-' :: Punycode.encode text⟩
    else none

/-! ## Directions -/

/-- How a character behaves where two writing directions meet. -/
inductive Direction where
  | left
  | right
  | arabicNumber
  | europeanNumber
  | mark
  | neutral
deriving DecidableEq

def Direction.ofChar (character : Char) : Direction :=
  if isWithin BidiTable.rightToLeft character then .right
  else if isWithin BidiTable.arabicNumbers character then .arabicNumber
  else if isWithin BidiTable.europeanNumbers character then .europeanNumber
  else if isWithin BidiTable.marks character then .mark
  else if isWithin BidiTable.neutrals character then .neutral
  else .left

/-- Whether a character makes its domain name one of both directions. -/
def Direction.isBackward (direction : Direction) : Bool :=
  direction == .right || direction == .arabicNumber

/-- Whether a label reads the same way wherever it stands: apart from marks it begins and ends with
what has its direction, and there is nothing of the other direction in between. -/
def isDirected (label : List Direction) : Bool :=
  let last := (label.reverse.dropWhile (· == .mark)).head?
  match label.head? with
  | none => true
  | some .left =>
    !label.any Direction.isBackward && (last == some .left || last == some .europeanNumber)
  | some .right =>
    !label.contains .left && !(label.contains .arabicNumber && label.contains .europeanNumber) &&
      (last == some .right || last == some .arabicNumber || last == some .europeanNumber)
  | some _ => false

/-- Whether the labels of a domain name can stand side by side. -/
def areDirected (labels : List Label) : Bool :=
  let directions := labels.map fun label => label.characters.map Direction.ofChar
  !(directions.any fun label => label.any Direction.isBackward) || directions.all isDirected

/-! ## Domain names -/

def ascii? (text : List Char) : Option (List Char) := do
  let labels ← (splitAll (· == '.') (← read? text)).mapM label?
  if areDirected labels then some ((labels.map Label.ascii).intersperse ['.']).flatten else none

end DocBridge.Url.Domain
