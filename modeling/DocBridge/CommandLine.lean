import DocBridge.Config
import DocBridge.Rpc.Lines
import DocBridge.Transport.Wires

/-!
# The command line

What the program is told by its arguments, and what comes of a run.  Everything that can be wrong is
found before the first line of input is read: first in the arguments, then in the configuration,
then in the addresses of the store.
-/

namespace DocBridge.CommandLine

def programName : String := serverName

/-- The configuration file for which no other is named. -/
def defaultConfigPath : String := "config.yaml"

def configVariable : String := "MDDB_MCP_CONFIG"

/-- What the arguments set. -/
structure Options where
  config : Option String := none
  listen : Option String := none
  stdio : Bool := false
  verbose : Bool := false
deriving DecidableEq, Repr

/-- What the arguments ask for. -/
inductive Request where
  | run (options : Options)
  | help
  | version
  | refused
deriving DecidableEq, Repr

/-- A switch, which has no value. -/
inductive Switch where
  | stdio
  | verbose
  | help
  | version
deriving DecidableEq, Repr

/-- A setting, which has a value. -/
inductive Setting where
  | config
  | listen
deriving DecidableEq, Repr

def Switch.ofName? : String → Option Switch
  | "--stdio" => some .stdio
  | "--verbose" => some .verbose
  | "--help" => some .help
  | "--version" => some .version
  | _ => none

def Switch.ofLetter? : Char → Option Switch
  | 'v' => some .verbose
  | 'h' => some .help
  | 'V' => some .version
  | _ => none

def Setting.ofName? : String → Option Setting
  | "--config" => some .config
  | "--listen" => some .listen
  | _ => none

/-- Turns on a switch, which may be done once.  Some are requests of their own. -/
def Options.turnOn (options : Options) : Switch → Except Request Options
  | .stdio => if options.stdio then .error .refused else .ok { options with stdio := true }
  | .verbose => if options.verbose then .error .refused else .ok { options with verbose := true }
  | .help => .error .help
  | .version => .error .version

/-- Gives a setting its value, which may be done once. -/
def Options.assign (options : Options) (value : String) : Setting → Except Request Options
  | .config =>
    if options.config.isSome then .error .refused else .ok { options with config := some value }
  | .listen =>
    if options.listen.isSome then .error .refused else .ok { options with listen := some value }

/-- Turns on the switches of a row of letters. -/
def Options.turnOnLetters (options : Options) : List Char → Except Request Options
  | [] => .ok options
  | letter :: rest =>
    match Switch.ofLetter? letter with
    | none => .error .refused
    | some switch => do (← options.turnOn switch).turnOnLetters rest

/-- Whether an argument can be the value of the setting before it.  A dash alone can. -/
def isValue (argument : String) : Bool :=
  match argument.toList with
  | '-' :: _ :: _ => false
  | _ => true

/-- Reads arguments.  The first that cannot be taken decides. -/
def Options.read (options : Options) : List String → Request
  | [] => .run options
  | argument :: rest =>
    let goOn : Except Request Options → Request
      | .ok options => options.read rest
      | .error request => request
    match argument.toList with
    | ['-', '-'] => if rest.isEmpty then .run options else .refused
    | '-' :: '-' :: _ =>
      let (name, attached) := splitFirst (· = '=') argument.toList
      let name := String.ofList name
      match Switch.ofName? name, Setting.ofName? name, attached with
      | some switch, _, none => goOn (options.turnOn switch)
      | none, some setting, some value => goOn (options.assign (String.ofList value) setting)
      | none, some setting, none =>
        match rest with
        | value :: rest =>
          if isValue value then
            match options.assign value setting with
            | .ok options => options.read rest
            | .error request => request
          else .refused
        | [] => .refused
      | _, _, _ => .refused
    | '-' :: letter :: letters => goOn (options.turnOnLetters (letter :: letters))
    | _ => .refused

def Request.ofArguments (arguments : List String) : Request := ({} : Options).read arguments

/-- What the program finds around it. -/
structure Surroundings (σ : Type) where
  environment : String → Option String
  files : String → ConfigFile
  wires : Wires σ

/-- The path of the configuration file: named by an argument, by the environment, or not at all. -/
def Options.configPath (options : Options) (environment : String → Option String) : String :=
  (options.config.or (environment configVariable)).getD defaultConfigPath

/-- The configuration of a run.  An address to listen on that is given as an argument comes on top
of a configuration that has been found valid, and is checked again. -/
def Options.load (options : Options) (environment : String → Option String)
    (files : String → ConfigFile) : Except String Config :=
  let path := options.configPath environment
  match Config.load path (files path) environment with
  | .error fault => .error ("Failed to load config '" ++ path ++ "': " ++ fault.message)
  | .ok config =>
    match options.listen with
    | none => .ok config
    | some address =>
      let config := { config with listenAddress := address }
      match config.validate with
      | .error fault => .error fault.message
      | .ok () => .ok config

def openClient {σ : Type} (wires : Wires σ) (config : Config) :
    Except String (FailoverClient (Grpc.Channel σ)) :=
  (wires.connect ⟨config.grpcAddress, config.restBaseUrl⟩ config.transportMode).mapError
    fun failure => "Failed to connect to MDDB: " ++ failure.message

inductive Start (σ : Type) where
  | help
  | version
  | refused
  | failed (message : String)
  | serving (options : Options) (config : Config) (client : FailoverClient (Grpc.Channel σ))

def start {σ : Type} (around : Surroundings σ) (arguments : List String) : Start σ :=
  match Request.ofArguments arguments with
  | .help => .help
  | .version => .version
  | .refused => .refused
  | .run options =>
    match options.load around.environment around.files with
    | .error message => .failed message
    | .ok config =>
      match openClient around.wires config with
      | .error message => .failed message
      | .ok client => .serving options config client

/-- What a run comes to: a text about the program, arguments that are refused, a failure before
anything is served, an address that is listened on, or lines that were served to their end. -/
inductive Report where
  | help
  | version
  | refused
  | failed (message : String)
  | listening (address : String)
  | served (output : Bytes) (ending : ServeEnd)
deriving DecidableEq, Repr

def run {σ : Type} (around : Surroundings σ) (arguments : List String) (input : InputStream)
    (world : σ) : Report :=
  match start around arguments with
  | .help => .help
  | .version => .version
  | .refused => .refused
  | .failed message => .failed message
  | .serving options config client =>
    if options.stdio then
      let (written, ending, _) :=
        serve client.transport input {} { world := ({ world } : Grpc.Channel σ) }
      .served written.bytes ending
    else .listening config.listenAddress

def Report.exitCode : Report → Nat
  | .help | .version | .listening _ | .served _ .inputEnded => 0
  | .failed _ | .served _ (.inputBroke _) => 1
  | .refused => 2

def errorText (message : String) : String := "Error: " ++ message

/-- What a run says about its failure. -/
def Report.error? : Report → Option String
  | .failed message => some (errorText message)
  | .served _ (.inputBroke reason) => some (errorText ("Server error: " ++ reason))
  | _ => none

def versionText : String := programName ++ " " ++ serverVersion

end DocBridge.CommandLine
