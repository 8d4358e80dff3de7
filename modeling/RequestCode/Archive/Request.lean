import RequestCode.Error
import RequestCode.Json.Record
import RequestCode.Request

/-!
# Requests in HTTP archives

The canonical request is written as the `request` object of an HTTP archive (HAR 1.2), and read
from one.
-/

namespace RequestCode

open Json

namespace Param

def toJson (p : Param) : Json := .object [("name", .string p.name), ("value", .string p.value)]

def ofTree? (t : Tree) : Option Param := do
  let [name, value] ← t.fields ["name", "value"] | none
  return ⟨← Tree.required Tree.text? name, ← Tree.required Tree.text? value⟩

end Param

namespace PostData

def toJson (d : PostData) : Json :=
  .object ([("mimeType", Json.string d.mimeType)]
    ++ (d.text.map fun s => ("text", Json.string s)).toList)

def ofTree? (t : Tree) : Option PostData := do
  let [mimeType, text] ← t.fields ["mimeType", "text"] | none
  return ⟨← Tree.required Tree.text? mimeType,
    ← Tree.orElse none (Tree.optional Tree.text?) text⟩

end PostData

namespace Request

def toJson (r : Request) : Json :=
  .object
    [("method", .string r.method), ("url", .string r.url),
      ("headers", .array (r.headers.map Param.toJson)),
      ("queryString", .array (r.query.map Param.toJson)),
      ("cookies", .array (r.cookies.map Param.toJson)),
      ("httpVersion", .string r.httpVersion),
      ("headersSize", .number (.integer r.headersSize)),
      ("bodySize", .number (.integer r.bodySize)),
      ("postData", r.postData.toJson)]

def ofTree? (t : Tree) : Option Request := do
  let [method, url, headers, query, cookies, httpVersion, headersSize, bodySize, postData] ←
    t.fields ["method", "url", "headers", "queryString", "cookies", "httpVersion", "headersSize",
      "bodySize", "postData"] | none
  return {
    method := ← Tree.required Tree.text? method
    url := ← Tree.required Tree.text? url
    headers := ← Tree.required (Tree.list Param.ofTree?) headers
    query := ← Tree.required (Tree.list Param.ofTree?) query
    cookies := ← Tree.required (Tree.list Param.ofTree?) cookies
    httpVersion := ← Tree.required Tree.text? httpVersion
    headersSize := ← Tree.required Tree.word? headersSize
    bodySize := ← Tree.required Tree.word? bodySize
    postData := ← Tree.required PostData.ofTree? postData }

/-- Read a canonical request. -/
def ofJson (v : Json) : Except Error Request :=
  match ofTree? v.tree with
  | some r => .ok r
  | none => .error .malformedJson

end Request

end RequestCode
