import DocBridge.Url.Address
import DocBridge.Url.Basic
import DocBridge.Url.Domain

/-!
# Hosts

The host of a URL whose scheme is not special is kept as it is, apart from percent encoding.  That
of a special one is a domain name in its ASCII form, or an IPv4 address if it ends in a number.  A
host in brackets is an IPv6 address.
-/

namespace DocBridge.Url

/-- What no host may hold. -/
def isForbiddenInHost (character : Char) : Bool :=
  ['\x00', '\t', '\n', '\r', ' ', '#', '/', ':', '<', '>', '?', '@', '[', '\\', ']', '^',
    '|'].contains character

/-- What no domain name may hold. -/
def isForbiddenInDomain (character : Char) : Bool :=
  isForbiddenInHost character || isControl character || character == '%'

/-- An IPv6 address between brackets. -/
def bracketed? (text : List Char) : Except Error (Option (List Char)) :=
  match text with
  | '[' :: inner =>
    if inner.getLast? == some ']' then
      match Address.ipv6? inner.dropLast with
      | some groups => .ok (some ('[' :: (Address.ipv6Text groups ++ [']'])))
      | none => .error .invalidIpv6
    else .error .invalidIpv6
  | _ => .ok none

/-- The host of a scheme that is not special. -/
def plainHost (text : List Char) : Except Error (List Char) :=
  match bracketed? text with
  | .error error => .error error
  | .ok (some address) => .ok address
  | .ok none =>
    if text.any isForbiddenInHost then .error .invalidDomainCharacter
    else .ok (percentEncode isControl text)

/-- The host of a special scheme. -/
def specialHost (text : List Char) : Except Error (List Char) :=
  match bracketed? text with
  | .error error => .error error
  | .ok (some address) => .ok address
  | .ok none =>
    match Domain.ascii? (Utf8.decodeLossy (percentDecode (Utf8.encode text))) with
    | none => .error .invalidDomainName
    | some domain =>
      if domain.any isForbiddenInDomain then .error .invalidDomainName
      else if domain.isEmpty then .error .emptyHost
      else if Address.endsInNumber domain then
        match Address.ipv4? domain with
        | some address => .ok (Address.ipv4Text address)
        | none => .error .invalidIpv4
      else .ok domain

end DocBridge.Url
