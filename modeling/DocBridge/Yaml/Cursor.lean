/-!
# Places in a YAML text

A cursor is what is left of a text, with the place where it begins.  YAML depends on places: lines
and columns decide which block a token belongs to.
-/

namespace DocBridge.Yaml

/-- What is left of a text, and how many bytes, lines and columns are behind it. -/
structure Cursor where
  rest : List Char
  index : Nat := 0
  line : Nat := 0
  column : Nat := 0
deriving DecidableEq, Repr

def isBlank (character : Char) : Bool := character = ' ' || character = '\t'

def isBreak (character : Char) : Bool :=
  character = '\r' || character = '\n' || character = '\u0085' || character = '\u2028' ||
    character = '\u2029'

/-- Whether a character may stand in a name of an anchor, a directive or a tag handle. -/
def isNameCharacter (character : Char) : Bool :=
  ('0' ≤ character && character ≤ '9') || ('A' ≤ character && character ≤ 'Z') ||
    ('a' ≤ character && character ≤ 'z') || character = '_' || character = '-'

/-- Whether a text ends, or goes on with a blank or a break. -/
def gapAhead : List Char → Bool
  | [] => true
  | character :: _ => isBlank character || isBreak character

def isAhead (characters : String) : List Char → Bool
  | [] => false
  | character :: _ => characters.toList.contains character

def startsWith (mark : String) (text : List Char) : Bool := mark.toList.isPrefixOf text

def byteCount (text : List Char) : Nat :=
  text.foldl (fun count character => count + character.utf8Size) 0

namespace Cursor

/-- The place behind the given number of characters of the line. -/
def skip (count : Nat) (cursor : Cursor) : Cursor :=
  { cursor with
    rest := cursor.rest.drop count
    index := cursor.index + byteCount (cursor.rest.take count)
    column := cursor.column + count }

/-- The characters of the line that pass a test, and the place behind them. -/
def span (test : Char → Bool) (cursor : Cursor) : List Char × Cursor :=
  let run := cursor.rest.takeWhile test
  (run, cursor.skip run.length)

def skipWhile (test : Char → Bool) (cursor : Cursor) : Cursor := (cursor.span test).2

def moveTo (rest : List Char) (cursor : Cursor) : Cursor :=
  cursor.skip (cursor.rest.length - rest.length)

/-- The place behind a line break of the given width. -/
def nextLine (width : Nat) (cursor : Cursor) : Cursor :=
  ⟨cursor.rest.drop width, cursor.index + byteCount (cursor.rest.take width), cursor.line + 1, 0⟩

/-- A line break as it is read, and the place behind it.  All breaks are read as line feeds but for
the separators of lines and of paragraphs. -/
def lineBreak? (cursor : Cursor) : Option (Char × Cursor) :=
  match cursor.rest with
  | '\r' :: '\n' :: _ => some ('\n', cursor.nextLine 2)
  | character :: _ =>
    if !isBreak character then none
    else if character = '\u2028' || character = '\u2029' then some (character, cursor.nextLine 1)
    else some ('\n', cursor.nextLine 1)
  | [] => none

/-- The place behind the rest of a line if that is blank or a comment; none otherwise. -/
def restOfLine? (cursor : Cursor) : Option Cursor :=
  let behindBlanks := cursor.skipWhile isBlank
  let behindComment :=
    if isAhead "#" behindBlanks.rest then behindBlanks.skipWhile (!isBreak ·) else behindBlanks
  match behindComment.lineBreak? with
  | some (_, after) => some after
  | none => if behindComment.rest.isEmpty then some behindComment else none

/-- Whether a line starts with a mark that stands alone. -/
def atMark (mark : String) (cursor : Cursor) : Bool :=
  cursor.column = 0 && startsWith mark cursor.rest &&
    gapAhead (cursor.rest.drop mark.toList.length)

/-- Whether a line starts with a mark between documents. -/
def atDocumentMark (cursor : Cursor) : Bool := cursor.atMark "---" || cursor.atMark "..."

end Cursor

end DocBridge.Yaml
