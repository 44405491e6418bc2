import DocBridge.Transport.Call
import DocBridge.Transport.Error
import DocBridge.Url.Form
import DocBridge.Url.HttpUri
import DocBridge.Url.Parser

/-!
# Requests to a REST store

Every operation has an endpoint of its own below a base URL.  What goes there is a request without a
body, or a JSON value.
-/

namespace DocBridge.Rest

inductive Method where
  | get
  | post
deriving DecidableEq, Repr

def Method.name : Method → String
  | .get => "GET"
  | .post => "POST"

structure Request where
  method : Method
  url : Url
  body : Option Json
deriving Repr

/-- The path of an operation's endpoint. -/
def endpointPath : Operation → String
  | .health => "/health"
  | .stats => "/v1/stats"
  | .add => "/v1/add"
  | .addBatch => "/v1/add-batch"
  | .updateBatch => "/v1/update-batch"
  | .deleteBatch => "/v1/delete-batch"
  | .get => "/v1/get"
  | .search => "/v1/search"
  | .delete => "/v1/delete"
  | .deleteCollection => "/v1/delete-collection"
  | .exportDocuments => "/v1/export"
  | .backup => "/v1/backup"
  | .restore => "/v1/restore"
  | .truncate => "/v1/truncate"

/-- A base URL without the slashes at its end. -/
def trimBase (base : String) : String :=
  String.ofList ((base.toList.reverse.dropWhile (· = '/')).reverse)

/-- The text of an endpoint's URL: the base without the slashes at its end, and the path. -/
def endpointText (base : String) (operation : Operation) : String :=
  trimBase base ++ endpointPath operation

/-- What a call puts into the query of its URL. -/
def queryPairs : Call → List (String × String)
  | .backup request => [("to", request.destination)]
  | _ => []

/-- What a call puts into the body of its request. -/
def body? : Call → Option Json
  | .health | .stats | .backup _ => none
  | .add request => some (Json.toJson request)
  | .addBatch request => some (Json.toJson request)
  | .updateBatch request => some (Json.toJson request)
  | .deleteBatch request => some (Json.toJson request)
  | .get request => some (Json.toJson request)
  | .search request => some (Json.toJson request)
  | .delete request => some (Json.toJson request)
  | .deleteCollection request => some (Json.toJson request)
  | .exportDocuments request => some (Json.toJson request)
  | .restore request => some (Json.toJson request)
  | .truncate request => some (Json.toJson request)

/-- A URL with a pair more in its query. -/
def addPair (url : Url) (pair : String × String) : Url :=
  let text := Url.Form.encodePair pair
  { url with query := some (match url.query with
      | none | some [] => text
      | some query => query ++ '&' :: text) }

/-- The text that a part of the user information stands for, if it is one. -/
def userText? (part : List Char) : Option String :=
  ofUtf8? (Url.percentDecode (Utf8.encode part))

/-- Whether user information names a user or, for want of a name, a password. -/
def namesUser (userinfo : List Char) : Bool :=
  let (name, password) := splitFirst (· = ':') userinfo
  match userText? name with
  | none => false
  | some name => name ≠ "" || (password.bind userText?).isSome

/-- A URL without user information, which goes into a header instead. -/
def withoutUser (url : Url) : Url :=
  { url with authority := url.authority.map fun authority =>
      if namesUser authority.userinfo then { authority with userinfo := [] } else authority }

/-- Whether a request can be sent to a URL. -/
def isSendable (url : Url) : Bool :=
  (url.scheme = "http".toList || url.scheme = "https".toList) && HttpUri.isValid url.toString

/-- The URL of a call below a base, if a request can be sent to it. -/
def urlOf (base : String) (call : Call) : Except HttpFault Url :=
  match Url.parse (endpointText base call.operation).toList with
  | .error _ => .error (.builder none)
  | .ok url =>
    if url.host?.isNone then .error (.builder (some url.toString))
    else
      let url := (queryPairs call).foldl addPair (withoutUser url)
      if isSendable url then .ok url else .error (.builder (some url.toString))

/-- The request of a call below a base. -/
def request (base : String) (call : Call) : Except HttpFault Request :=
  (urlOf base call).map fun url =>
    let body := body? call
    { method := if body.isSome then .post else .get, url, body }

/-- What a request asks the server for: the path, with the query if there is one. -/
def Request.target (request : Request) : String :=
  let path := request.url.path.text
  String.ofList ((if path.isEmpty then ['/'] else path) ++ (match request.url.query with
    | some query => '?' :: query
    | none => []))

end DocBridge.Rest
