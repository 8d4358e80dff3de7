import RequestCode.Archive.Request
import RequestCode.Url.Reader

/-!
# Recorded traffic

An HTTP archive holds the requests of a session. Those with an absolute URL can be rendered again;
their headers and query parameters become maps.
-/

namespace RequestCode

open Json

/-- The request of one recorded entry. -/
structure Entry where
  method : String
  url : String
  headers : List Param
  query : List Param
  postData : Option PostData
  deriving DecidableEq

structure Recording where
  entries : List Entry
  deriving DecidableEq

/-- The parts of a recorded request. -/
structure Recorded where
  method : String
  url : String
  query : Params
  headers : Params
  body : String
  deriving DecidableEq

namespace Entry

def requestOfTree? (t : Tree) : Option Entry := do
  let [method, url, headers, query, postData] ←
    t.fields ["method", "url", "headers", "queryString", "postData"] | none
  return {
    method := ← Tree.required Tree.text? method
    url := ← Tree.required Tree.text? url
    headers := ← Tree.orElse [] (Tree.list Param.ofTree?) headers
    query := ← Tree.orElse [] (Tree.list Param.ofTree?) query
    postData := ← Tree.orElse none (Tree.optional PostData.ofTree?) postData }

def ofTree? (t : Tree) : Option Entry := do
  let [request] ← t.fields ["request"] | none
  Tree.required requestOfTree? request

def recorded (e : Entry) : Recorded where
  method := .ofList (Text.upper e.method.toList)
  url := e.url
  query := Params.ofPairs e.query
  headers := Params.ofPairs e.headers
  body := (e.postData.bind (·.text)).getD ""

def hasUrl (e : Entry) : Bool := (Url.read e.url).toOption.isSome

end Entry

namespace Recording

def logOfTree? (t : Tree) : Option (List Entry) := do
  let [entries] ← t.fields ["entries"] | none
  Tree.required (Tree.list Entry.ofTree?) entries

def ofTree? (t : Tree) : Option Recording := do
  let [log] ← t.fields ["log"] | none
  return ⟨← Tree.required logOfTree? log⟩

/-- Read the text of an archive. -/
def read (text : String) : Except Error Recording :=
  match (Tree.read text).bind ofTree? with
  | some r => .ok r
  | none => .error .malformedRecording

/-- The requests whose URL is absolute, in order. -/
def requests (r : Recording) : List Recorded := (r.entries.filter (·.hasUrl)).map (·.recorded)

end Recording

end RequestCode
