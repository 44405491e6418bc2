import DocBridge.Text.Digit
import DocBridge.Text.Utf8

/-!
# Percent encoding

A byte that may not stand for itself in a URL is written as a percent sign and two hexadecimal
digits.  What may stand for itself depends on the part of the URL.
-/

namespace DocBridge.Url

def percentByte (byte : UInt8) : List Char :=
  ['%', Digit.upper (byte.toNat / 16), Digit.upper (byte.toNat % 16)]

/-- A character that is encoded if it is reserved or not ASCII. -/
def percentChar (isReserved : Char → Bool) (character : Char) : List Char :=
  if character.toNat < 0x80 && !isReserved character then [character]
  else (String.utf8EncodeChar character).flatMap percentByte

/-- A text with every reserved or non-ASCII character encoded. -/
def percentEncode (isReserved : Char → Bool) (text : List Char) : List Char :=
  text.flatMap (percentChar isReserved)

/-- The bytes that a text stands for.  A percent sign without two digits stands for itself. -/
def percentDecode : Bytes → Bytes
  | 0x25 :: high :: low :: rest =>
    match Digit.byteValue? high, Digit.byteValue? low with
    | some first, some second => UInt8.ofNat (first * 16 + second) :: percentDecode rest
    | _, _ => 0x25 :: percentDecode (high :: low :: rest)
  | byte :: rest => byte :: percentDecode rest
  | [] => []

/-- Controls, always encoded. -/
def isControl (character : Char) : Bool :=
  character.toNat < 0x20 || character.toNat = 0x7F

def isFragmentReserved (character : Char) : Bool :=
  isControl character || [' ', '"', '<', '>', '`'].contains character

def isQueryReserved (character : Char) : Bool :=
  isControl character || [' ', '"', '#', '<', '>'].contains character

/-- What the query of a special scheme encodes. -/
def isSpecialQueryReserved (character : Char) : Bool :=
  isQueryReserved character || character == '\''

def isPathReserved (character : Char) : Bool :=
  isFragmentReserved character || ['#', '?', '{', '}'].contains character

def isUserinfoReserved (character : Char) : Bool :=
  isPathReserved character ||
    ['/', ':', ';', '=', '@', '[', '\\', ']', '^', '|'].contains character

end DocBridge.Url
