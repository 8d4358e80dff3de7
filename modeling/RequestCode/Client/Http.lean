import RequestCode.Piece

/-!
# Plain HTTP messages
-/

namespace RequestCode.Client.Http

open Piece

def http11 : Printer := fun r =>
  [bare r.method, code " ", bare r.pathAndQuery, code " ", bare r.httpVersion,
    code "\nHost: ", bare r.host]
  ++ each r.headers (fun h => [code "\n", bare h.name, code ": ", bare h.value])
  ++ only r.hasBody
    [code "\nContent-Length: ", bare (.ofList (Text.decimal r.bodyLength)), code "\n\n",
      bare r.body]
  ++ [code "\n"]

end RequestCode.Client.Http
