import RequestCode.Piece

/-!
# Clients in Clojure
-/

namespace RequestCode.Client.Clojure

open Piece

/-- The entries of a map literal. -/
def entries (ps : List Param) : List Piece :=
  eachWith (code " ") (fun p => [json p.name, code " ", json p.value]) ps

def cljHttp : Printer := fun r =>
  [code "(require '[clj-http.client :as client])\n\n(client/request \x7b:method :",
    bare (.ofList (Text.lower r.method.toList)),
    code "\n                 :url ", json r.url]
  ++ only r.hasQuery (
    [code "\n                 :query-params \x7b"] ++ entries r.query ++ [code "\x7d"])
  ++ only r.hasHeaders (
    [code "\n                 :headers \x7b"] ++ entries r.headers ++ [code "\x7d"])
  ++ only r.hasBody [code "\n                 :body ", json r.body]
  ++ [code "\n                 \x7d)\n"]

end RequestCode.Client.Clojure
