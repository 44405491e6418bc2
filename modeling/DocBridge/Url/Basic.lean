import DocBridge.Url.Percent

/-!
# URLs

A URL in its normal form, in which every part is written with its own encoding, and the text of it.
The path is a list of segments, or a bare text if the URL has neither an authority nor a path that
begins with a slash.
-/

namespace DocBridge

namespace Url

/-- Why a text is no URL. -/
inductive Error where
  | relativeWithoutBase
  | emptyHost
  | invalidPort
  | invalidDomainCharacter
  | invalidDomainName
  | invalidIpv4
  | invalidIpv6
deriving DecidableEq, Repr

def Error.message : Error → String
  | .relativeWithoutBase => "relative URL without a base"
  | .emptyHost => "empty host"
  | .invalidPort => "invalid port number"
  | .invalidDomainCharacter => "invalid domain character"
  | .invalidDomainName => "invalid international domain name"
  | .invalidIpv4 => "invalid IPv4 address"
  | .invalidIpv6 => "invalid IPv6 address"

/-- Who and where: user information, a host that may be empty, and a port. -/
structure Authority where
  userinfo : List Char := []
  host : List Char
  port : Option Nat := none
deriving DecidableEq, Repr

/-- The path of a URL. -/
inductive Path where
  | bare (text : List Char)
  | segments (names : List (List Char))
deriving DecidableEq, Repr

end Url

structure Url where
  scheme : List Char
  authority : Option Url.Authority
  path : Url.Path
  query : Option (List Char)
  fragment : Option (List Char)
deriving DecidableEq, Repr

namespace Url

/-- Every segment behind a slash. -/
def segmentsText (names : List (List Char)) : List Char :=
  names.flatMap ('/' :: ·)

/-- The path as it is written where nothing can be taken for an authority. -/
def Path.text : Path → List Char
  | .bare text => text
  | .segments names => segmentsText names

/-- The authority between its slashes and the path. -/
def Authority.text (authority : Authority) : List Char :=
  (if authority.userinfo.isEmpty then [] else authority.userinfo ++ ['@']) ++ authority.host ++
    (match authority.port with
      | some port => ':' :: Nat.toDigits 10 port
      | none => [])

/-- Whether the path would be taken for an authority: it begins with an empty segment. -/
def Path.needsDot : Path → Bool
  | .segments ([] :: _ :: _) => true
  | _ => false

/-- The scheme, and the authority or what stands in its place. -/
def head (url : Url) : List Char :=
  url.scheme ++ ':' ::
    (match url.authority with
      | some authority => '/' :: '/' :: authority.text
      | none => if url.path.needsDot then ['/', '.'] else [])

def text (url : Url) : List Char :=
  url.head ++ url.path.text ++
    (match url.query with
      | some query => '?' :: query
      | none => []) ++
    (match url.fragment with
      | some fragment => '#' :: fragment
      | none => [])

def toString (url : Url) : String := String.ofList url.text

def host? (url : Url) : Option (List Char) :=
  match url.authority with
  | some authority => if authority.host.isEmpty then none else some authority.host
  | none => none

end Url

end DocBridge
