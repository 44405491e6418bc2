import DocBridge.Text.Split
import DocBridge.Url.Percent

/-!
# Form-encoded pairs

Name and value pairs as a query carries them: pairs are separated by ampersands, a name ends at the
first equals sign, a plus sign is a space, and all else is percent-encoded.
-/

namespace DocBridge.Url.Form

/-- The text that an encoded name or value stands for. -/
def decodeText (bytes : Bytes) : String :=
  String.ofList (Utf8.decodeLossy (percentDecode (bytes.map fun byte =>
    if byte = 0x2B then 0x20 else byte)))

/-- The pair that a piece between ampersands stands for. -/
def decodePair (piece : Bytes) : String × String :=
  let (name, rest) := splitFirst (· == 0x3D) piece
  (decodeText name, decodeText (rest.getD []))

/-- The pairs of a query.  Empty pieces are no pairs. -/
def decode (query : Bytes) : List (String × String) :=
  ((splitAll (· == 0x26) query).filter fun piece => !piece.isEmpty).map decodePair

/-- Whether a byte of a name or value stands for itself. -/
def isPlain (byte : UInt8) : Bool :=
  (0x30 ≤ byte && byte ≤ 0x39) || (0x41 ≤ byte && byte ≤ 0x5A) || (0x61 ≤ byte && byte ≤ 0x7A) ||
    byte = 0x2A || byte = 0x2D || byte = 0x2E || byte = 0x5F

def encodeByte (byte : UInt8) : List Char :=
  if isPlain byte then [Char.ofNat byte.toNat]
  else if byte = 0x20 then ['+']
  else percentByte byte

def encodeText (text : String) : List Char :=
  (utf8Bytes text).flatMap encodeByte

def encodePair (pair : String × String) : List Char :=
  encodeText pair.1 ++ '=' :: encodeText pair.2

end DocBridge.Url.Form
