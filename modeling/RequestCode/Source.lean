import RequestCode.Json.Record
import RequestCode.Error

/-!
# Live requests

A host shows its requests as fields by name. Any JSON value can be shown that way, and so can a
plain record.
-/

namespace RequestCode

open Json

/-- A request as its host shows it: the value of each field it has. -/
abbrev Source := String → Option Json

def Json.source (v : Json) : Source := v.member?

/-- A request of a host without request objects of its own. -/
structure Record where
  method : String
  url : String
  headers : Option Params
  body : Option String
  deriving DecidableEq

namespace Record

def source (r : Record) : Source
  | "method" => some (.string r.method)
  | "url" => some (.string r.url)
  | "headers" => r.headers.map fun m => .object m.entries
  | "body" => r.body.map .string
  | _ => none

/-- The record of a tree that may be nested `depth` levels deep; values inside its headers are two
levels further down. -/
def ofTree? (depth : Nat) (t : Tree) : Option Record := do
  let [method, url, headers, body] ← t.fields ["method", "url", "headers", "body"] | none
  return {
    method := ← Tree.orElse "" Tree.text? method
    url := ← Tree.orElse "" Tree.text? url
    headers := ← Tree.orElse none (Tree.optional (Tree.params? (depth - 2))) headers
    body := ← Tree.orElse none (Tree.optional Tree.text?) body }

/-- Only texts are limited in their nesting, values are not. -/
def ofJson? (v : Json) : Option Record := ofTree? v.depth v.tree

/-- Read the JSON text of a record. -/
def read (text : String) : Except Error Record :=
  match (Tree.read text).bind (ofTree? nesting) with
  | some r => .ok r
  | none => .error .malformedJson

/-- The record as JSON; what is missing is null. -/
def toJson (r : Record) : Json :=
  .object
    [("method", .string r.method), ("url", .string r.url),
      ("headers", match r.headers with
        | some m => .object m.entries
        | none => .null),
      ("body", match r.body with
        | some s => .string s
        | none => .null)]

end Record

end RequestCode
