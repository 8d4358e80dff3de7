import RequestCode.Request
import RequestCode.Url.Reader

/-!
# Outgoing requests

A request as clients print it: the URL is read once, its query is merged with the parameters of
the request, and every part a client may need is derived from the result.
-/

namespace RequestCode

/-- Store a parameter: it takes the place of the first of its name, and the others of its name are
dropped. A new name goes to the end. -/
def replaceParam (p : Param) : List Param → List Param
  | [] => [p]
  | q :: r =>
    if q.name = p.name then p :: r.filter (fun s => s.name ≠ p.name) else q :: replaceParam p r

/-- The pairs of a URL with each override in place of the pairs of its name. -/
def mergeQuery (pairs overrides : List Param) : List Param :=
  overrides.foldl (fun acc p => replaceParam p acc) pairs

/-- What clients print of a request. -/
structure Outgoing where
  method : String
  httpVersion : String
  /-- The URL without its query. -/
  url : String
  /-- The URL with the merged query. -/
  fullUrl : String
  scheme : String
  hostname : String
  /-- The host name with the port, if the URL names one. -/
  host : String
  port : Nat
  pathAndQuery : String
  query : List Param
  headers : List Param
  hasBody : Bool
  /-- The text that is sent along; empty without a body. -/
  body : String
  /-- The length of the text in octets. -/
  bodyLength : Nat
  /-- The type that the request gives for a body, whether it has one or not. -/
  mimeType : String
  deriving DecidableEq

namespace Outgoing

/-- The headers that are sent: a body of a known type brings its content type, unless there is
one already. -/
def headersFor (headers : List Param) (data : PostData) : List Param :=
  if data.text.isSome && !headers.any isContentType && data.mimeType ≠ "" then
    headers ++ [⟨"content-type", data.mimeType⟩]
  else headers

def ofUrl (r : Request) (parsed : Url) : Outgoing :=
  let u := parsed.withoutFragment
  let query := mergeQuery u.pairs r.query
  let u := u.withPairs query
  let body := r.postData.text.getD ""
  { method := r.method
    httpVersion := r.httpVersion
    url := u.withoutQuery.text
    fullUrl := u.text
    scheme := u.scheme
    hostname := u.hostText
    host := u.hostAndPort
    port := u.port?.getD 80
    pathAndQuery := u.pathAndQuery
    query := query
    headers := headersFor r.headers r.postData
    hasBody := r.hasBody
    body := body
    bodyLength := Text.Utf8.size body.toList
    mimeType := r.postData.mimeType }

/-- The URL of the request has to be absolute. -/
def ofRequest (r : Request) : Except Url.Error Outgoing := (Url.read r.url).map (ofUrl r)

def hasQuery (r : Outgoing) : Bool := !r.query.isEmpty

def hasHeaders (r : Outgoing) : Bool := !r.headers.isEmpty

end Outgoing

end RequestCode
