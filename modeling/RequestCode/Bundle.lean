import RequestCode.Json.Writer
import RequestCode.Resolve

/-!
# Bundles of snippets

The snippets of one request for a list of targets, with what the request is about.
-/

namespace RequestCode

structure Snippet where
  /-- The identifier as it was given. -/
  id : String
  mimeType : Option String
  title : String
  content : String
  deriving DecidableEq

structure Bundle where
  method : String
  url : String
  resource : Option String
  snippets : List Snippet
  deriving DecidableEq

/-- The resource that a URL addresses: the last part between slashes, before the query and the
fragment, that is neither empty nor a placeholder in braces. -/
def resourceName (url : String) : Option String :=
  let path := url.toList.takeWhile fun c => c ≠ '?' && c ≠ '#'
  ((Text.pieces '/' path).reverse.find? fun s => !s.isEmpty && s.head? ≠ some '\x7b').map .ofList

/-- The type that snippets of a request carry. -/
def Request.mimeType? (r : Request) : Option String :=
  if r.postData.mimeType = "" then none else some r.postData.mimeType

/-- The snippet of a request for one target. -/
def Outgoing.snippet (r : Outgoing) (mimeType : Option String) (id : String) :
    Except Error Snippet := do
  let target ← resolve id
  let content ← r.convert target.language (some target.library)
  return ⟨id, mimeType, target.title, content⟩

/-- Render a request for every target in order. The URL is checked first, then the targets. -/
def Request.bundle (r : Request) (targets : List String) : Except Error Bundle := do
  let outgoing ← match Outgoing.ofRequest r with
    | .ok o => .ok o
    | .error e => .error (.url e)
  let snippets ← targets.mapM (outgoing.snippet r.mimeType?)
  return ⟨r.method, r.url, resourceName r.url, snippets⟩

/-- Assemble a request and render it. -/
def generate (url method : String) (targets : List String) (query headers : Option Params)
    (body : Option String) : Except Error Bundle :=
  (Request.build url method query headers body).bundle targets

namespace Bundle

def optional (name : String) (text : Option String) : List (String × Json) :=
  (text.map fun s => (name, Json.string s)).toList

def snippetJson (s : Snippet) : Json :=
  .object ([("id", .string s.id)] ++ optional "mimeType" s.mimeType
    ++ [("title", .string s.title), ("content", .string s.content)])

/-- The bundle as JSON; what is missing is left out. -/
def toJson (b : Bundle) : Json :=
  .object ([("method", .string b.method), ("url", .string b.url)] ++ optional "resource" b.resource
    ++ [("snippets", .array (b.snippets.map snippetJson))])

end Bundle

end RequestCode
