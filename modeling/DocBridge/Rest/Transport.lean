import DocBridge.Arguments
import DocBridge.Rest.Request
import DocBridge.Text.Blank
import DocBridge.Text.Split
import DocBridge.Transport.Basic

/-!
# A transport to a REST store

A request goes out for every call.  A response with a success status is decoded as the operation
demands; the body of any other response is the reason of the failure.
-/

namespace DocBridge.Rest

structure Response where
  status : Nat
  body : Bytes
deriving DecidableEq, Repr

def isSuccess (status : Nat) : Bool := 200 ≤ status && status ≤ 299

/-- The body of a failure as a text without white space at its ends. -/
def failureText (body : Bytes) : String :=
  String.ofList (trim isWhiteSpace (Utf8.decodeLossy body))

/-- The body of a response with a success status. -/
def successBody (operation : Operation) (response : Response) : Except TransportError Bytes :=
  if isSuccess response.status then .ok response.body
  else .error (.status operation response.status (failureText response.body))

def decodeBody (α : Type) [Json.Codec α] (operation : Operation) (body : Bytes) :
    Except TransportError α :=
  match Json.decode α body with
  | .ok value => .ok value
  | .error _ => .error (.http operation .decoding)

/-- The status in an answer to truncation: a text of its own, or how many revisions went. -/
def truncateStatus (answer : Json) : String :=
  match (answer.member? "status").bind Json.string? with
  | some status => status
  | none =>
    let deleted := match (answer.member? "deleted").bind Json.number? with
      | some n => Arguments.toInt64 n
      | none => 0
    "deleted " ++ toString deleted.toInt ++ " revisions"

/-- The reply in the body of a response with a success status.  A search is answered with a bare
list, an export with the data itself, and for a deletion the body does not matter. -/
def ofBody : (call : Call) → Bytes → call.Outcome
  | .health, body => decodeBody Health .health body
  | .stats, body => decodeBody Stats .stats body
  | .add _, body => decodeBody Document .add body
  | .addBatch _, body => decodeBody AddBatchReply .addBatch body
  | .updateBatch _, body => decodeBody UpdateBatchReply .updateBatch body
  | .deleteBatch _, body => decodeBody DeleteBatchReply .deleteBatch body
  | .get _, body => decodeBody Document .get body
  | .search _, body =>
    (decodeBody (List Document) .search body).map fun documents =>
      { documents, total := Int64.ofNat documents.length }
  | .delete _, _ => .ok ()
  | .deleteCollection _, body => decodeBody DeleteCollectionReply .deleteCollection body
  | .exportDocuments _, body => .ok { chunks := if body.isEmpty then [] else [body] }
  | .backup _, body => decodeBody BackupReply .backup body
  | .restore _, body => decodeBody RestoreReply .restore body
  | .truncate _, body =>
    (decodeBody Json .truncate body).map fun answer => { status := truncateStatus answer }

/-- The outcome of a call by the response to its request. -/
def outcome (call : Call) (response : Response) : call.Outcome :=
  match successBody call.operation response with
  | .error failure => .error failure
  | .ok body => ofBody call body

/-- What carries requests: how a world responds to one, if it can be sent. -/
abbrev Wire (σ : Type) := Request → σ → Option Response × σ

/-- Makes a call below a base URL. -/
def perform {σ : Type} (wire : Wire σ) (base : String) (call : Call) (world : σ) :
    call.Outcome × σ :=
  match request base call with
  | .error fault => (.error (.http call.operation fault), world)
  | .ok request =>
    match wire request world with
    | (some response, after) => (outcome call response, after)
    | (none, after) => (.error (.http call.operation (.sending request.url.toString)), after)

/-- The transport to a store below a base URL.  It holds nothing that could be released. -/
def transport {σ : Type} (wire : Wire σ) (base : String) : Transport σ where
  perform := perform wire base
  close world := (.ok (), world)

end DocBridge.Rest
