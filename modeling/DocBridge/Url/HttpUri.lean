import DocBridge.Text.Utf8

/-!
# Addresses of HTTP requests

The addresses that an HTTP client can put into a request: absolute ones and mere paths.  They are
narrower than URLs in their authority, which has to be ASCII, and are checked but not brought into a
normal form.
-/

namespace DocBridge.HttpUri

def maxLength : Nat := 65534

def isAlphanumeric (byte : UInt8) : Bool :=
  (0x30 ≤ byte && byte ≤ 0x39) || (0x41 ≤ byte && byte ≤ 0x5A) || (0x61 ≤ byte && byte ≤ 0x7A)

def isOneOf (characters : String) (byte : UInt8) : Bool :=
  characters.toList.any fun character => character.toNat = byte.toNat

def isSchemeByte (byte : UInt8) : Bool := isAlphanumeric byte || isOneOf "+-.~" byte

def maxSchemeLength : Nat := 64

/-- What follows the scheme and its slashes. -/
def behindScheme? (text : Bytes) : Option Bytes :=
  let scheme := text.takeWhile isSchemeByte
  if scheme.length ≤ maxSchemeLength && (utf8Bytes "://").isPrefixOf (text.drop scheme.length) then
    some (text.drop (scheme.length + 3))
  else none

def endsAuthority (byte : UInt8) : Bool := isOneOf "/?#" byte

def isAuthorityByte (byte : UInt8) : Bool :=
  isAlphanumeric byte || isOneOf "!$%&'()*+,-.:;=@[]_~" byte

/-- What an authority has shown so far: the colons and whether a percent sign stands since the last
at sign or closing bracket, and which brackets there were. -/
structure Authority where
  colons : Nat := 0
  percent : Bool := false
  opened : Bool := false
  closed : Bool := false
deriving DecidableEq, Repr

/-- The most colons that an address in brackets can have. -/
def maxColons : Nat := 8

/-- Takes notice of a byte of an authority. -/
def Authority.step (authority : Authority) (byte : UInt8) : Option Authority :=
  if byte = 0x3A then
    if maxColons ≤ authority.colons then none
    else some { authority with colons := authority.colons + 1 }
  else if byte = 0x5B then
    if authority.percent || authority.opened then none else some { authority with opened := true }
  else if byte = 0x5D then
    if !authority.opened || authority.closed then none
    else some { authority with closed := true, colons := 0, percent := false }
  else if byte = 0x40 then some { authority with colons := 0, percent := false }
  else if byte = 0x25 then some { authority with percent := true }
  else some authority

/-- Whether a text is an authority: user information, a host, and a port. -/
def isAuthority (text : Bytes) : Bool :=
  !text.isEmpty && text.all isAuthorityByte && text.getLast? != some 0x40 &&
    match text.foldlM Authority.step {} with
    | some authority =>
      authority.opened == authority.closed && authority.colons ≤ 1 && !authority.percent
    | none => false

def isPathByte (byte : UInt8) : Bool :=
  0x21 ≤ byte && byte != 0x3C && byte != 0x3E && byte != 0x60 && byte != 0x7F

def isQueryByte (byte : UInt8) : Bool :=
  0x21 ≤ byte && byte != 0x22 && byte != 0x23 && byte != 0x3C && byte != 0x3E && byte != 0x7F

/-- Whether a text is a path with perhaps a query.  What follows a number sign does not count. -/
def isPathAndQuery (text : Bytes) : Bool :=
  let text := text.takeWhile (· != 0x23)
  (text.takeWhile (· != 0x3F)).all isPathByte &&
    ((text.dropWhile (· != 0x3F)).drop 1).all isQueryByte

/-- Whether a text can only be a path, since it begins with a slash. -/
def isPath (text : String) : Bool := text.toList.head? == some '/'

/-- Whether a text is an absolute address, or a path with a query. -/
def isValid (text : String) : Bool :=
  let bytes := utf8Bytes text
  bytes.length ≤ maxLength &&
    if isPath text then isPathAndQuery bytes
    else
      match behindScheme? bytes with
      | some rest =>
        isAuthority (rest.takeWhile (!endsAuthority ·)) &&
          isPathAndQuery (rest.dropWhile (!endsAuthority ·))
      | none => false

end DocBridge.HttpUri
