import RequestCode.Piece

/-!
# Clients for the shell
-/

namespace RequestCode.Client.Shell

open Piece

def str (text : String) : Piece := quoted .shell text

def word (text : String) : Piece := quoted .shellWord text

def curl : Printer := fun r =>
  [code "curl --request ", word r.method, code " \\\n  --url ", str r.fullUrl]
  ++ each r.headers (fun h => [code " \\\n  --header ", str (headerLine h)])
  ++ only r.hasBody [code " \\\n  --data ", str r.body]
  ++ [code "\n"]

def httpie : Printer := fun r =>
  only r.hasBody [code "echo ", str r.body, code " | \\\n  "]
  ++ [code "http ", word r.method, code " ", str r.fullUrl]
  ++ each r.headers (fun h => [code " \\\n  ", str (h.name ++ ":" ++ h.value)])
  ++ [code "\n"]

def wget : Printer := fun r =>
  [code "wget --quiet \\\n  --method ", word r.method]
  ++ each r.headers (fun h => [code " \\\n  --header ", str (headerLine h)])
  ++ only r.hasBody [code " \\\n  --body-data ", str r.body]
  ++ [code " \\\n  --output-document \\\n  - ", str r.fullUrl, code "\n"]

end RequestCode.Client.Shell
