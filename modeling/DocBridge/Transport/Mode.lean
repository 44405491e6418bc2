import DocBridge.Json.Codec

/-!
# Transport modes

The store can be reached over two wires.  A mode says which of them every call goes to first and
whether the other one backs it up.
-/

namespace DocBridge

/-- The two wires. -/
inductive TransportKind where
  | grpc
  | rest
deriving DecidableEq, Repr

def TransportKind.name : TransportKind → String
  | .grpc => "grpc"
  | .rest => "rest"

/-- Which wire is primary, and whether the other one is its fallback. -/
inductive TransportMode where
  | grpcOnly
  | restOnly
  | grpcWithRestFallback
  | restWithGrpcFallback
deriving DecidableEq, Repr

namespace TransportMode

def all : List TransportMode :=
  [.grpcOnly, .restOnly, .grpcWithRestFallback, .restWithGrpcFallback]

/-- The wire tried first on every call. -/
def primary : TransportMode → TransportKind
  | .grpcOnly | .grpcWithRestFallback => .grpc
  | .restOnly | .restWithGrpcFallback => .rest

/-- The wire tried when the primary fails. -/
def secondary : TransportMode → Option TransportKind
  | .grpcOnly | .restOnly => none
  | .grpcWithRestFallback => some .rest
  | .restWithGrpcFallback => some .grpc

def name : TransportMode → String
  | .grpcOnly => "grpc_only"
  | .restOnly => "rest_only"
  | .grpcWithRestFallback => "grpc_with_rest_fallback"
  | .restWithGrpcFallback => "rest_with_grpc_fallback"

def ofName? (text : String) : Option TransportMode :=
  all.find? fun mode => mode.name == text

/-- The mode of a name, or what is wrong with it. -/
def parse (text : String) : Except String TransportMode :=
  match ofName? text with
  | some mode => .ok mode
  | none => .error ("invalid transport mode: " ++ text)

instance : Json.Codec TransportMode where
  schema := .choice (all.map name)
  toJson mode := .string mode.name
  ofJson? json := json.string?.bind ofName?

end TransportMode

end DocBridge
