import DocBridge.Url.Host
import DocBridge.Url.Segment

/-!
# File URLs

A file URL has a host only if two slashes precede it, and its path may begin with a drive, which
takes the place of the host.  The host `localhost` is none.  A path begins with no empty name unless
that is its only one.
-/

namespace DocBridge.Url.File

/-- The text behind a slash, if it begins with one. -/
def behindSlash? (text : List Char) : Option (List Char) :=
  match text.dropWhile isLineBreak with
  | first :: rest => if isAnySlash first then some rest else none
  | [] => none

/-- A drive with a colon that a line break parts from what follows it in a segment. -/
def brokenDrive? (segment : List Char) : Option (List Char × List Char) :=
  match splitFirst (· == ':') segment with
  | (before, some (next :: rest)) =>
    let drive := withoutBreaks before ++ [':']
    let behind := withoutBreaks rest
    if isDrive drive && isLineBreak next && !behind.isEmpty then some (drive, behind) else none
  | _ => none

/-- The host and the names behind all segments.  Where no name precedes it, a drive is written with
a colon and takes the place of the host, and one that is broken off is a name of its own. -/
def resolve (host : List Char) (names : List (List Char)) :
    List (List Char) → List Char × List (List Char)
  | [] => (host, names)
  | segment :: rest =>
    let name := withoutBreaks segment
    match names, brokenDrive? segment with
    | [], some (drive, behind) =>
      resolve host [drive, percentEncode isPathReserved behind] rest
    | [], none =>
      if isDrive name then resolve [] [name.take 1 ++ [':']] rest
      else resolve host (advance [] name rest.isEmpty) rest
    | _, _ => resolve host (advance names name rest.isEmpty) rest

def trimNames (names : List (List Char)) : List (List Char) :=
  match names.dropWhile List.isEmpty with
  | [] => [[]]
  | rest => rest

/-- The authority and path of a host and the segments behind it. -/
def place (host : List Char) (text : List Char) : Authority × Path :=
  let (host, names) := resolve host [] (splitAll isAnySlash text)
  ({ host }, .segments (trimNames names))

def readHost (text : List Char) : Except Error (List Char) :=
  if text.isEmpty then .ok []
  else (specialHost text).map fun host => if host = "localhost".toList then [] else host

/-- The authority and path of a file URL.  The slash behind a host is not part of its path, but that
behind an empty one is. -/
def hierarchy (text : List Char) : Except Error (Authority × Path) :=
  match behindSlash? text with
  | none => .ok (place [] text)
  | some rest =>
    match behindSlash? rest with
    | none => .ok (place [] rest)
    | some rest =>
      let hostText := withoutBreaks (rest.takeWhile fun character => !isAnySlash character)
      let pathText := rest.dropWhile fun character => !isAnySlash character
      if isDrive hostText then .ok (place [] rest)
      else (readHost hostText).map fun host =>
        place host (if host.isEmpty then pathText else pathText.drop 1)

end DocBridge.Url.File
