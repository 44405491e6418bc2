import DocBridge.Text.Split
import DocBridge.Url.Percent

/-!
# Segments of a path

A path is a list of names, each behind a slash.  Of the segments of a text most are names; single
and double dots are not, and are resolved while the names are gathered.
-/

namespace DocBridge.Url

def isAnySlash (character : Char) : Bool := character == '/' || character == '\\'

/-- Tabs and line breaks, dropped anywhere. -/
def isLineBreak (character : Char) : Bool :=
  character == '\t' || character == '\n' || character == '\r'

def withoutBreaks (text : List Char) : List Char :=
  text.filter fun character => !isLineBreak character

/-- The character that a dot may be written as, and what follows it. -/
def dot? : List Char → Option (List Char)
  | '.' :: rest => some rest
  | '%' :: '2' :: 'e' :: rest => some rest
  | '%' :: '2' :: 'E' :: rest => some rest
  | _ => none

/-- A segment that stays where it is. -/
def isSingleDot (segment : List Char) : Bool := dot? segment == some []

/-- A segment that goes back by one. -/
def isDoubleDot (segment : List Char) : Bool := (dot? segment).bind dot? == some []

/-- A drive: a letter and a colon or bar. -/
def isDrive : List Char → Bool
  | [letter, mark] => letter.isAlpha && (mark == ':' || mark == '|')
  | _ => false

/-- Whether a name stays when a double dot follows it: a drive, perhaps with a backslash behind
it. -/
def isPinned (name : List Char) : Bool := isDrive (name.takeWhile (· != '\\'))

/-- The names without the last one, unless that stays. -/
def shorten (names : List (List Char)) : List (List Char) :=
  if names.getLast?.any isPinned then names else names.dropLast

/-- The names behind one more segment.  The last one leaves an empty name if it is of dots. -/
def advance (names : List (List Char)) (segment : List Char) (isLast : Bool) :
    List (List Char) :=
  let ending := if isLast then [[]] else []
  if isDoubleDot segment then shorten names ++ ending
  else if isSingleDot segment then names ++ ending
  else names ++ [percentEncode isPathReserved segment]

def resolve (names : List (List Char)) : List (List Char) → List (List Char)
  | [] => names
  | segment :: rest => resolve (advance names segment rest.isEmpty) rest

end DocBridge.Url
