import DocBridge.BridgeError
import DocBridge.Text.Decimal
import DocBridge.Transport.Basic
import DocBridge.Url.Form
import DocBridge.Url.Parser

/-!
# Resources

Read-only resources that an agent names by URL: the health and the statistics of the store, a
document, and a search.  A URL is resolved to what it names before anything is asked of the store,
and reading it takes exactly one operation.
-/

namespace DocBridge

open Json

/-! ## Catalog -/

/-- A resource, or a family of them, as it is announced. -/
structure ResourceTemplate where
  uri : String
  name : String
  description : String
  mimeType : String
deriving DecidableEq, Repr

def mimeJson : String := "application/json"

def mimeMarkdown : String := "text/markdown"

def resourceTemplates : List ResourceTemplate :=
  [{ uri := "mddb://health", name := "MDDB Health"
     description := "Health status of MDDB server", mimeType := mimeJson },
   { uri := "mddb://stats", name := "MDDB Statistics"
     description := "Server and database statistics", mimeType := mimeJson },
   { uri := "mddb://\x7bcollection\x7d/\x7bkey\x7d?lang=\x7blang\x7d", name := "MDDB Document"
     description := "Get a document by collection, key, and language"
     mimeType := mimeMarkdown },
   { uri := "mddb-search://\x7bcollection\x7d", name := "MDDB Search"
     description := "Search documents in a collection", mimeType := mimeJson }]

/-- The JSON form of a template, its members in key order. -/
def ResourceTemplate.toJson (template : ResourceTemplate) : Json :=
  .record [("uri", .string template.uri), ("name", .string template.name),
    ("description", .string template.description), ("mimeType", .string template.mimeType)]

/-! ## Targets -/

/-- What a resource URL names. -/
inductive ResourceTarget where
  | health
  | stats
  | document (request : GetRequest)
  | search (request : SearchRequest)
deriving DecidableEq, Repr

namespace ResourceTarget

/-- What stands behind a leading text, if the text begins with it. -/
def behind? (start text : String) : Option String :=
  if start.toList.isPrefixOf text.toList then
    some (String.ofList (text.toList.drop start.toList.length))
  else none

/-- The first pair of a name decides. -/
def first? (pairs : List (String × String)) (name : String) : Option String :=
  pairs.lookup name

/-- The language of a document: the first one that is named and not empty. -/
def langOf (pairs : List (String × String)) : String :=
  match pairs.find? fun pair => pair.1 == "lang" && pair.2 != "" with
  | some pair => pair.2
  | none => defaultLang

/-- The placeholder values: the first one of every name behind `env.`. -/
def envOf (pairs : List (String × String)) : SortedMap String :=
  .ofList (pairs.filterMap fun pair => (behind? "env." pair.1).map (·, pair.2))

/-- The document that pairs of a query ask for. -/
def documentRequest (collection key : String) (pairs : List (String × String)) : GetRequest where
  collection := collection
  key := key
  lang := langOf pairs
  env := envOf pairs

/-- Puts a value behind those that a filter has under a name. -/
def appendValue (filter : Meta) (name value : String) : Meta :=
  filter.insert name (((filter.get? name).getD []) ++ [value])

/-- The filter: all values of every name behind `meta.`, in their order. -/
def filterOf (pairs : List (String × String)) : Meta :=
  pairs.foldl (fun filter pair =>
    match behind? "meta." pair.1 with
    | some name => appendValue filter name pair.2
    | none => filter) ∅

/-- A number of a query, zero if it is none. -/
def numberOf (pairs : List (String × String)) (name : String) : Int32 :=
  ((first? pairs name).bind parseInt32?).getD 0

/-- The search that pairs of a query ask for. -/
def searchRequest (collection : String) (pairs : List (String × String)) : SearchRequest where
  collection := collection
  filterMeta := filterOf pairs
  sort := (first? pairs "sort").getD ""
  asc := first? pairs "asc" == some "true"
  limit := numberOf pairs "limit"
  offset := numberOf pairs "offset"

/-- The host and the segments of the path, without the empty ones. -/
def rawSegments (url : Url) : List (List Char) :=
  (url.host?.toList ++ splitAll (· == '/') url.path.text).filter fun segment => !segment.isEmpty

/-- The text that a segment stands for. -/
def decodeSegment (url : Url) (segment : List Char) : Except BridgeError String :=
  match Utf8.decode (Url.percentDecode (Utf8.encode segment)) with
  | .ok text => .ok (String.ofList text)
  | .error fault => .error (.invalidUri (url.toString ++ ": " ++ fault.message))

def segments (url : Url) : Except BridgeError (List String) :=
  (rawSegments url).mapM (decodeSegment url)

def queryPairs (url : Url) : List (String × String) :=
  Url.Form.decode (Utf8.encode (url.query.getD []))

/-- What the segments and query of a URL of the given text name. -/
def ofSegments (uri : String) (url : Url) (names : List String) :
    Except BridgeError ResourceTarget :=
  match String.ofList url.scheme with
  | "mddb" =>
    match names with
    | ["health"] => .ok .health
    | ["stats"] => .ok .stats
    | [collection, key] => .ok (.document (documentRequest collection key (queryPairs url)))
    | _ =>
      .error (.invalidUri (uri ++
        ": expected mddb://health, mddb://stats or mddb://\x7bcollection\x7d/\x7bkey\x7d"))
  | "mddb-search" =>
    match names with
    | [collection] => .ok (.search (searchRequest collection (queryPairs url)))
    | _ => .error (.invalidUri (uri ++ ": expected mddb-search://\x7bcollection\x7d"))
  | other => .error (.invalidUri ("unsupported uri scheme: " ++ other))

/-- What a URL names. -/
def resolve (uri : String) : Except BridgeError ResourceTarget :=
  match Url.parse uri.toList with
  | .error error => .error (.invalidUri (uri ++ ": " ++ error.message))
  | .ok url =>
    match segments url with
    | .error failure => .error failure
    | .ok names => ofSegments uri url names

/-- The type of a resource's text. -/
def mimeType : ResourceTarget → String
  | .document _ => mimeMarkdown
  | _ => mimeJson

/-- What reading a resource asks of the store. -/
def call : ResourceTarget → Call
  | .health => .health
  | .stats => .stats
  | .document request => .get request
  | .search request => .search request

/-- The text of a resource.  That of a document is its content. -/
def render : (target : ResourceTarget) → target.call.Reply → String
  | .health, (reply : Health) => (Json.toJson reply).compactString
  | .stats, (reply : Stats) => (Json.toJson reply).compactString
  | .document _, (reply : Document) => reply.contentMd
  | .search _, (reply : SearchReply) => (Json.toJson reply).compactString

end ResourceTarget

end DocBridge
