import DocBridge.Text.Digit

/-!
# Socket addresses

An IP address and a port: `127.0.0.1:80`, or `[::1]:80` with an optional scope behind a percent
sign.  Names are no addresses.
-/

namespace DocBridge

/-- An IP address by its parts, of eight or of sixteen bits. -/
inductive IpAddress where
  | v4 (octets : List Nat)
  | v6 (groups : List Nat) (scope : Nat)
deriving DecidableEq, Repr

structure SocketAddress where
  ip : IpAddress
  port : Nat
deriving DecidableEq, Repr

namespace SocketAddress

/-- Reads something from the start of a text, and leaves what is behind it. -/
abbrev Reader := StateT (List Char) Option

/-- A number below a bound, of any length or of at most `width` digits. -/
def readNumber (radix : Nat) (width : Option Nat) (bound : Nat) : Reader Nat := do
  let value? := Digit.inBase? radix
  let digits := (← get).takeWhile fun character => (value? character).isSome
  let value := digits.foldl (fun n character => n * radix + (value? character).getD 0) 0
  if digits.isEmpty || width.any (· < digits.length) || bound ≤ value then failure
  modify (·.drop digits.length)
  return value

def readCharacter (expected : Char) : Reader Unit := do
  if (← get).head? ≠ some expected then failure
  modify List.tail

/-- An octet, which has no leading zeros. -/
def readOctet : Reader Nat := do
  let text ← get
  let value ← readNumber 10 (some 3) 256
  if text.head? = some '0' && 1 < text.length - (← get).length then failure
  return value

def readOctets : Reader (Nat × Nat × Nat × Nat) := do
  let first ← readOctet
  readCharacter '.'
  let second ← readOctet
  readCharacter '.'
  let third ← readOctet
  readCharacter '.'
  return (first, second, third, ← readOctet)

/-- The colon before every group but the first. -/
def readSeparator (isFirst : Bool) : Reader Unit :=
  if isFirst then pure () else readCharacter ':'

/-- Two groups written as four octets. -/
def readDotted (isFirst : Bool) : Reader (List Nat × Bool) := do
  readSeparator isFirst
  let (first, second, third, fourth) ← readOctets
  return ([first * 256 + second, third * 256 + fourth], true)

/-- As many groups as there are, but not more than the given number.  The last two may be written
as four octets, and nothing is read behind those.  Gives whether they are. -/
def readGroups : Nat → Bool → Reader (List Nat × Bool)
  | 0, _ => return ([], false)
  | room + 1, isFirst =>
    (if room = 0 then failure else readDotted isFirst) <|>
    (do
      readSeparator isFirst
      let group ← readNumber 16 (some 4) 65536
      let (more, dotted) ← readGroups room false
      return (group :: more, dotted)) <|>
    pure ([], false)

/-- Eight groups, or fewer with a double colon for zeros. -/
def readIpv6 : Reader (List Nat) := do
  let (front, dotted) ← readGroups 8 true
  if front.length = 8 then return front
  if dotted then failure
  readCharacter ':'
  readCharacter ':'
  let (back, _) ← readGroups (7 - front.length) true
  return front ++ List.replicate (8 - front.length - back.length) 0 ++ back

/-- The scope of an address, zero if none is named. -/
def readScope : Reader Nat := do
  if (← get).head? = some '%' then
    readCharacter '%'
    readNumber 10 none UInt32.size
  else return 0

/-- A colon and a port. -/
def readPort : Reader Nat := do
  readCharacter ':'
  readNumber 10 none UInt16.size

def readV4 : Reader SocketAddress := do
  let (first, second, third, fourth) ← readOctets
  return ⟨.v4 [first, second, third, fourth], ← readPort⟩

def readV6 : Reader SocketAddress := do
  readCharacter '['
  let groups ← readIpv6
  let scope ← readScope
  readCharacter ']'
  return ⟨.v6 groups scope, ← readPort⟩

def ofText? (text : String) : Option SocketAddress :=
  match (readV4 <|> readV6).run text.toList with
  | some (address, []) => some address
  | _ => none

end SocketAddress

end DocBridge
