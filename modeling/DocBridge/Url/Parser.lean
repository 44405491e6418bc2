import DocBridge.Url.File

/-!
# Reading URLs

A text is cut into its parts from the outside in: blanks at its ends and line breaks anywhere are
dropped, then come the scheme, the fragment, the query, the authority and the path.  Six schemes are
special: a backslash is a slash for them, and all but one of them always have a host.
-/

namespace DocBridge.Url

/-- How a scheme treats its authority and path. -/
inductive SchemeKind where
  | plain
  | special (port : Nat)
  | file
deriving DecidableEq, Repr

def SchemeKind.ofScheme (scheme : List Char) : SchemeKind :=
  match String.ofList scheme with
  | "http" => .special 80
  | "ws" => .special 80
  | "https" => .special 443
  | "wss" => .special 443
  | "ftp" => .special 21
  | "file" => .file
  | _ => .plain

/-- Whether a backslash is a slash. -/
def SchemeKind.isSpecial : SchemeKind → Bool
  | .plain => false
  | _ => true

/-- Whether a character ends a segment. -/
def SchemeKind.isSlash (kind : SchemeKind) (character : Char) : Bool :=
  if kind.isSpecial then isAnySlash character else character == '/'

/-- Controls and spaces, dropped at both ends. -/
def isOuterBlank (character : Char) : Bool := character.toNat ≤ 0x20

/-- Whether a character may be part of a scheme. -/
def isSchemeChar (character : Char) : Bool :=
  character.isAlphanum || character == '+' || character == '-' || character == '.'

/-- The scheme in lowercase, and what stands behind its colon. -/
def splitScheme? (text : List Char) : Option (List Char × List Char) :=
  match splitFirst (· == ':') text with
  | (before, some rest) =>
    let scheme := withoutBreaks before
    if scheme.head?.any Char.isAlpha && scheme.all isSchemeChar then
      some (scheme.map Char.toLower, rest)
    else none
  | (_, none) => none

/-! ## Authority -/

/-- User information: a name, and behind the first colon a password. -/
def userinfoText (text : List Char) : List Char :=
  match splitFirst (· == ':') text with
  | (name, none) => percentEncode isUserinfoReserved name
  | (name, some password) =>
    percentEncode isUserinfoReserved name ++
      (if password.isEmpty then [] else ':' :: percentEncode isUserinfoReserved password)

/-- What stands before the first colon outside brackets, and what stands behind it. -/
def splitPort (inBrackets : Bool) : List Char → List Char × Option (List Char)
  | [] => ([], none)
  | character :: rest =>
    if character == ':' && !inBrackets then ([], some rest)
    else
      let inside := character == '[' || (character != ']' && inBrackets)
      let (host, port) := splitPort inside rest
      (character :: host, port)

/-- A port, and what follows its digits.  Only a backslash may. -/
def port? (text : List Char) : Except Error (Option Nat × List Char) :=
  let digits := text.takeWhile Digit.isDecimal
  let rest := text.dropWhile Digit.isDecimal
  match rest with
  | [] | '\\' :: _ =>
    if digits.isEmpty then .ok (none, rest)
    else
      match Digit.number? 10 digits with
      | some port => if port < 65536 then .ok (some port, rest) else .error .invalidPort
      | none => .error .invalidPort
  | _ => .error .invalidPort

/-- The host by the kind of its scheme. -/
def hostOfKind (kind : SchemeKind) (text : List Char) : Except Error (List Char) :=
  if kind.isSpecial then if text.isEmpty then .error .emptyHost else specialHost text
  else plainHost text

/-- An authority and what is left of its text.  `atEnd` says that nothing follows the text. -/
def readAuthority (kind : SchemeKind) (text : List Char) (atEnd : Bool) :
    Except Error (Authority × List Char) := do
  let (user, location) := splitLast (· == '@') text
  if user = some [] ∧ location = [] ∧ !atEnd then throw .emptyHost
  let userinfo := userinfoText (user.getD [])
  let (hostText, portText) := splitPort false location
  let host ← hostOfKind kind hostText
  if host.isEmpty && portText.isSome then throw .emptyHost
  let (port, rest) ← port? (portText.getD [])
  if host.isEmpty && !userinfo.isEmpty then throw .emptyHost
  let shown := if kind = .special (port.getD 65536) then none else port
  return (⟨userinfo, host, shown⟩, rest)

/-! ## Path -/

def pathSegments (kind : SchemeKind) (text : List Char) : Path :=
  .segments (resolve [] (splitAll kind.isSlash text))

/-- The path behind an authority.  A special URL always has one. -/
def pathAfterAuthority (kind : SchemeKind) (text : List Char) : Path :=
  match text with
  | [] => .segments (if kind.isSpecial then [[]] else [])
  | first :: rest => pathSegments kind (if kind.isSlash first then rest else text)

/-! ## URL -/

/-- The authority and path of a URL that has an authority. -/
def withAuthority (kind : SchemeKind) (text : List Char) (atEnd : Bool) :
    Except Error (Option Authority × Path) := do
  let authorityText := text.takeWhile fun character => !kind.isSlash character
  let pathText := text.dropWhile fun character => !kind.isSlash character
  let (found, rest) ← readAuthority kind authorityText (pathText.isEmpty && atEnd)
  return (some found, pathAfterAuthority kind (rest ++ pathText))

/-- The authority and path, by the kind of the scheme.  `atEnd` says that nothing follows them. -/
def hierarchy (kind : SchemeKind) (text : List Char) (atEnd : Bool) :
    Except Error (Option Authority × Path) :=
  match kind with
  | .special _ => withAuthority kind ((withoutBreaks text).dropWhile kind.isSlash) atEnd
  | .file => (File.hierarchy text).map fun (authority, path) => (some authority, path)
  | .plain =>
    match withoutBreaks text with
    | '/' :: '/' :: rest => withAuthority kind rest atEnd
    | '/' :: rest => .ok (none, pathSegments kind rest)
    | bare => .ok (none, .bare (percentEncode isControl bare))

def parse (text : List Char) : Except Error Url :=
  match splitScheme? (trim isOuterBlank text) with
  | none => .error .relativeWithoutBase
  | some (scheme, rest) =>
    let kind := SchemeKind.ofScheme scheme
    let (beforeFragment, fragment) := splitFirst (· == '#') rest
    let (beforeQuery, query) := splitFirst (· == '?') beforeFragment
    match hierarchy kind beforeQuery (query.isNone && fragment.isNone) with
    | .error error => .error error
    | .ok (authority, path) =>
      .ok {
        scheme
        authority
        path
        query := query.map fun query =>
          percentEncode (if kind.isSpecial then isSpecialQueryReserved else isQueryReserved)
            (withoutBreaks query)
        fragment := fragment.map fun fragment =>
          percentEncode isFragmentReserved (withoutBreaks fragment) }

end DocBridge.Url
