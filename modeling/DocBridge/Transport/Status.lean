import DocBridge.Text.Literal

/-!
# gRPC statuses

How a gRPC call ended when it has no reply.
-/

namespace DocBridge

inductive StatusCode where
  | ok
  | cancelled
  | unknown
  | invalidArgument
  | deadlineExceeded
  | notFound
  | alreadyExists
  | permissionDenied
  | resourceExhausted
  | failedPrecondition
  | aborted
  | outOfRange
  | unimplemented
  | internal
  | unavailable
  | dataLoss
  | unauthenticated
deriving DecidableEq, Repr

namespace StatusCode

/-- The codes in the order of their numbers. -/
def all : List StatusCode :=
  [.ok, .cancelled, .unknown, .invalidArgument, .deadlineExceeded, .notFound, .alreadyExists,
    .permissionDenied, .resourceExhausted, .failedPrecondition, .aborted, .outOfRange,
    .unimplemented, .internal, .unavailable, .dataLoss, .unauthenticated]

/-- The code of a number.  A number without one means `unknown`. -/
def ofNumber (number : Nat) : StatusCode := (all[number]?).getD .unknown

def name : StatusCode → String
  | .ok => "Ok"
  | .cancelled => "Cancelled"
  | .unknown => "Unknown"
  | .invalidArgument => "InvalidArgument"
  | .deadlineExceeded => "DeadlineExceeded"
  | .notFound => "NotFound"
  | .alreadyExists => "AlreadyExists"
  | .permissionDenied => "PermissionDenied"
  | .resourceExhausted => "ResourceExhausted"
  | .failedPrecondition => "FailedPrecondition"
  | .aborted => "Aborted"
  | .outOfRange => "OutOfRange"
  | .unimplemented => "Unimplemented"
  | .internal => "Internal"
  | .unavailable => "Unavailable"
  | .dataLoss => "DataLoss"
  | .unauthenticated => "Unauthenticated"

end StatusCode

/-- A status.  `answered` says that the store sent it in the headers of its answer, rather than
behind a stream or not at all. -/
structure Status where
  code : StatusCode
  reason : String
  answered : Bool
deriving DecidableEq, Repr

namespace Status

/-- The status of a call for which no connection could be made. -/
def unreachable : Status := ⟨.unavailable, "tcp connect error", false⟩

/-- The status of a call for which there is no host to connect to. -/
def undeliverable : Status := ⟨.unknown, "transport error", false⟩

def message (status : Status) : String :=
  "status: " ++ status.code.name ++ ", message: " ++ Literal.quote status.reason ++
    ", details: [], metadata: MetadataMap \x7b headers: \x7b" ++
    (if status.answered then "\"content-type\": \"application/grpc\"" else "") ++ "\x7d \x7d"

end Status

end DocBridge
