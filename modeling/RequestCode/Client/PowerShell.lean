import RequestCode.Piece

/-!
# Clients in PowerShell
-/

namespace RequestCode.Client.PowerShell

open Piece

def str (text : String) : Piece := quoted .verbatim text

/-- A call of one of the two commands that take a URL. -/
def invoke (command : String) : Printer := fun r =>
  only r.hasHeaders (
    [code "$headers=@\x7b\x7d"]
    ++ each r.headers (fun h =>
      [code "\n$headers.Add(", str h.name, code ", ", str h.value, code ")"])
    ++ [code "\n"])
  ++ [code ("$response = " ++ command ++ " -Uri "), str r.fullUrl, code " -Method ", str r.method]
  ++ only r.hasHeaders [code " -Headers $headers"]
  ++ only r.hasBody [code " -ContentType ", str r.mimeType, code " -Body ", str r.body]
  ++ [code "\n"]

def webRequest : Printer := invoke "Invoke-WebRequest"

def restMethod : Printer := invoke "Invoke-RestMethod"

end RequestCode.Client.PowerShell
