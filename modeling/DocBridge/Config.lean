import DocBridge.SocketAddress
import DocBridge.Text.Blank
import DocBridge.Text.Decimal
import DocBridge.Transport.Mode
import DocBridge.Url.Parser
import DocBridge.Yaml.Node

/-!
# Configuration

A configuration is built in layers: the defaults, a YAML file, the environment.  A layer sets some
of the fields and leaves the others as they are.  What comes out is checked once, at the end.
-/

namespace DocBridge

/-- What the bridge has to know. -/
structure Config where
  listenAddress : String := "0.0.0.0:9000"
  grpcAddress : String := "localhost:11024"
  restBaseUrl : String := "http://localhost:11023"
  transportMode : TransportMode := .grpcWithRestFallback
  timeoutSeconds : UInt64 := 2
  maxRetries : UInt32 := 1
deriving DecidableEq, Repr

/-- Some of the fields of a configuration. -/
structure ConfigLayer where
  listenAddress : Option String := none
  grpcAddress : Option String := none
  restBaseUrl : Option String := none
  transportMode : Option TransportMode := none
  timeoutSeconds : Option UInt64 := none
  maxRetries : Option UInt32 := none
deriving DecidableEq, Repr

def Config.overlay (config : Config) (layer : ConfigLayer) : Config where
  listenAddress := layer.listenAddress.getD config.listenAddress
  grpcAddress := layer.grpcAddress.getD config.grpcAddress
  restBaseUrl := layer.restBaseUrl.getD config.restBaseUrl
  transportMode := layer.transportMode.getD config.transportMode
  timeoutSeconds := layer.timeoutSeconds.getD config.timeoutSeconds
  maxRetries := layer.maxRetries.getD config.maxRetries

def Config.timeoutMilliseconds (config : Config) : Nat := config.timeoutSeconds.toNat * 1000

inductive ConfigError where
  | unreadable (path reason : String)
  | malformed
  | missingField (name : String)
  | invalidField (reason : String)
deriving DecidableEq, Repr

def ConfigError.message : ConfigError → String
  | .unreadable path reason => "I/O error: failed to read " ++ path ++ ": " ++ reason
  | .malformed => "Parse error: failed to parse YAML"
  | .missingField name => "Missing required field: " ++ name
  | .invalidField reason => "Invalid field: " ++ reason

namespace ConfigLayer

open Yaml

/-! ## The file -/

/-- A reader of a value; none if the node is of another shape. -/
abbrev NodeReader (α : Type) := Yaml.Document → Yaml.Node → Option α

def textOf : NodeReader String := fun document node =>
  match document.resolve? node with
  | some (.scalar text _ _) => some text
  | _ => none

/-- The number that digits of a radix spell, if it is below a bound. -/
def digitsBelow? (radix bound : Nat) (text : List Char) : Option Nat :=
  match (SocketAddress.readNumber radix none bound).run text with
  | some (n, []) => some n
  | _ => none

/-- A natural number below a bound: decimal without leading zeros, or with a mark for hexadecimal,
octal or binary digits.  A plus sign may stand before it. -/
def natural? (bound : Nat) (text : List Char) : Option Nat :=
  let unsigned := match text with
    | '+' :: rest => rest
    | _ => text
  match unsigned with
  | '0' :: 'x' :: digits => digitsBelow? 16 bound digits
  | '0' :: 'o' :: digits => digitsBelow? 8 bound digits
  | '0' :: 'b' :: digits => digitsBelow? 2 bound digits
  | '0' :: _ :: _ => none
  | digits => digitsBelow? 10 bound digits

/-- A natural number below a bound.  It is a plain scalar, or a literal block with the tag of
integers. -/
def naturalOf (bound : Nat) : NodeReader Nat := fun document node =>
  match document.resolve? node with
  | some (.scalar text .plain _) => natural? bound text.toList
  | some (.scalar text .literal (some "tag:yaml.org,2002:int")) => natural? bound text.toList
  | _ => none

def isNull (text : String) : Bool :=
  text = "" || text = "~" || text = "null" || text = "Null" || text = "NULL"

/-- A transport mode: its name as a text, or as the tag of a null. -/
def modeOf : NodeReader TransportMode := fun document node =>
  match document.resolve? node with
  | some (.scalar text style tag) =>
    match tag.bind fun tag => (tag.dropPrefix? "!").map (·.toString) with
    | some name => if style = .plain && isNull text then TransportMode.ofName? name else none
    | none => TransportMode.ofName? text
  | _ => none

/-- The entries of a mapping under the names that are known, each of which may be there once.  A
value that is not written is an empty mapping. -/
def knownEntries (names : List String) : NodeReader (List (String × Node)) := fun document node =>
  match document.resolve? node with
  | some (.mapping entries) => do
    let named ← entries.mapM fun entry => (textOf document entry.1).map (·, entry.2)
    let known := named.filter fun entry => names.contains entry.1
    if (known.map (·.1)).Nodup then some known else none
  | some (.scalar "" .plain _) => some []
  | _ => none

def entry {α : Type} (document : Yaml.Document) (entries : List (String × Node)) (name : String)
    (read : NodeReader α) : Option (Option α) :=
  match entries.lookup name with
  | none => some none
  | some node => (read document node).map some

def ofDocument? (document : Yaml.Document) : Option ConfigLayer := do
  let sections ← knownEntries ["mcp", "mddb"] document document.root
  let mcp ← (sections.lookup "mcp").elim (some []) (knownEntries ["listenAddress"] document)
  let mddb ← (sections.lookup "mddb").elim (some []) (knownEntries
    ["grpcAddress", "restBaseUrl", "transportMode", "timeoutSeconds", "maxRetries"] document)
  return {
    listenAddress := ← entry document mcp "listenAddress" textOf
    grpcAddress := ← entry document mddb "grpcAddress" textOf
    restBaseUrl := ← entry document mddb "restBaseUrl" textOf
    transportMode := ← entry document mddb "transportMode" modeOf
    timeoutSeconds :=
      (← entry document mddb "timeoutSeconds" (naturalOf UInt64.size)).map UInt64.ofNat
    maxRetries := (← entry document mddb "maxRetries" (naturalOf UInt32.size)).map UInt32.ofNat }

end ConfigLayer

/-- What is found under the path of a configuration file.  What is there may not be readable, for a
reason that the system gives. -/
inductive ConfigFile where
  | absent
  | directory
  | unreadable (reason : String)
  | contents (bytes : Bytes)
deriving DecidableEq, Repr

namespace ConfigLayer

/-- The fields that a file sets.  A file that is absent or blank sets none. -/
def ofFile (path : String) : ConfigFile → Except ConfigError ConfigLayer
  | .absent => .ok {}
  | .directory => .error (.unreadable path "Is a directory (os error 21)")
  | .unreadable reason => .error (.unreadable path reason)
  | .contents bytes =>
    match ofUtf8? bytes with
    | none => .error (.unreadable path "stream did not contain valid UTF-8")
    | some text =>
      if text.toList.all isWhiteSpace then .ok {}
      else
        match (Yaml.Document.ofText? text.toList).bind ofDocument? with
        | some layer => .ok layer
        | none => .error .malformed

/-! ## The environment -/

/-- What a variable of a name does to a layer. -/
structure Variable where
  name : String
  apply : String → ConfigLayer → Except String ConfigLayer

def Variable.ofText (name : String) (store : String → ConfigLayer → ConfigLayer) : Variable :=
  ⟨name, fun text layer => .ok (store text layer)⟩

def Variable.ofNumber (name : String) (largest : Nat) (store : Nat → ConfigLayer → ConfigLayer) :
    Variable :=
  ⟨name, fun text layer =>
    match Decimal.parse 0 largest text.toList with
    | .ok n => .ok (store n.toNat layer)
    | .error fault => .error fault.message⟩

/-- The variables in the order in which they are read. -/
def knownVariables : List Variable := [
  .ofText "MCP_LISTEN_ADDRESS" fun text layer => { layer with listenAddress := some text },
  .ofText "MDDB_GRPC_ADDRESS" fun text layer => { layer with grpcAddress := some text },
  .ofText "MDDB_REST_BASE_URL" fun text layer => { layer with restBaseUrl := some text },
  ⟨"MDDB_TRANSPORT_MODE", fun text layer =>
    (TransportMode.parse text).map fun mode => { layer with transportMode := some mode }⟩,
  .ofNumber "MDDB_TIMEOUT_SECONDS" (UInt64.size - 1) fun n layer =>
    { layer with timeoutSeconds := some (UInt64.ofNat n) },
  .ofNumber "MDDB_MAX_RETRIES" (UInt32.size - 1) fun n layer =>
    { layer with maxRetries := some (UInt32.ofNat n) }]

/-- Reads variables one after the other.  An empty one counts as not set.  The first whose text is
not usable ends the reading, and what was read before it stands. -/
def readVariables (environment : String → Option String) :
    List Variable → ConfigLayer → ConfigLayer × Except ConfigError Unit
  | [], layer => (layer, .ok ())
  | next :: rest, layer =>
    match (environment next.name).filter (· ≠ "") with
    | none => readVariables environment rest layer
    | some text =>
      match next.apply text layer with
      | .ok layer => readVariables environment rest layer
      | .error reason => (layer, .error (.invalidField (next.name ++ ": " ++ reason)))

/-- The fields that an environment sets, up to the first unusable variable. -/
def ofEnvironment (environment : String → Option String) : ConfigLayer × Except ConfigError Unit :=
  readVariables environment knownVariables {}

end ConfigLayer

namespace Config

/-- Checks a configuration: an address to listen on, an address and a URL to reach the store at,
and some time for a call. -/
def validate (config : Config) : Except ConfigError Unit :=
  if (SocketAddress.ofText? config.listenAddress).isNone then
    .error (.invalidField "invalid listenAddress: invalid socket address syntax")
  else if config.grpcAddress = "" then .error (.missingField "grpcAddress")
  else
    match Url.parse config.restBaseUrl.toList with
    | .error fault => .error (.invalidField ("invalid restBaseUrl: " ++ fault.message))
    | .ok _ =>
      if config.timeoutSeconds = 0 then .error (.invalidField "timeoutSeconds must be > 0")
      else .ok ()

theorem validate_eq_ok_iff {config : Config} :
    config.validate = .ok () ↔
      (SocketAddress.ofText? config.listenAddress).isSome ∧ config.grpcAddress ≠ "" ∧
        (∃ url, Url.parse config.restBaseUrl.toList = .ok url) ∧ config.timeoutSeconds ≠ 0 := by
  unfold validate
  cases hlisten : SocketAddress.ofText? config.listenAddress with
  | none => simp
  | some address =>
    by_cases hgrpc : config.grpcAddress = ""
    · simp [hgrpc]
    · cases hurl : Url.parse config.restBaseUrl.toList <;> simp [hgrpc]

/-- The configuration of a file and an environment, checked. -/
def load (path : String) (file : ConfigFile) (environment : String → Option String) :
    Except ConfigError Config := do
  let fromFile ← ConfigLayer.ofFile path file
  let (fromEnvironment, outcome) := ConfigLayer.ofEnvironment environment
  outcome
  let config := (({} : Config).overlay fromFile).overlay fromEnvironment
  config.validate
  return config

end Config

end DocBridge
