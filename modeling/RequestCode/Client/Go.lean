import RequestCode.Piece

/-!
# Clients in Go
-/

namespace RequestCode.Client.Go

open Piece

def newRequest : Printer := fun r =>
  [code "package main\n\nimport (\n\t\"fmt\"\n\t\"io\"\n\t\"net/http\""]
  ++ only r.hasBody [code "\n\t\"strings\""]
  ++ [code "\n)\n\nfunc main() \x7b\n\n\turl := ", json r.fullUrl, code "\n"]
  ++ (if r.hasBody then
      [code "\n\tpayload := strings.NewReader(", json r.body,
        code ")\n\n\treq, _ := http.NewRequest(", json r.method, code ", url, payload)"]
    else [code "\n\treq, _ := http.NewRequest(", json r.method, code ", url, nil)"])
  ++ each r.headers (fun h =>
    [code "\n\treq.Header.Add(", json h.name, code ", ", json h.value, code ")"])
  ++ [code "\n\n\tres, _ := http.DefaultClient.Do(req)\n\n",
    code "\tdefer res.Body.Close()\n\tbody, _ := io.ReadAll(res.Body)\n\n",
    code "\tfmt.Println(res)\n\tfmt.Println(string(body))\n\n\x7d\n"]

end RequestCode.Client.Go
