import RequestCode.Piece

/-!
# Clients in Python
-/

namespace RequestCode.Client.Python

open Piece

/-- An assignment of a dictionary. -/
def dictionary (name : String) (ps : List Param) : List Piece :=
  [code ("\n" ++ name ++ " = \x7b")] ++ members "    " .json ps ++ [code "\n\x7d\n"]

def payload (r : Outgoing) : List Piece :=
  only r.hasBody [code "\npayload = ", json r.body, code "\n"]

def httpClient : Printer := fun r =>
  [code "import http.client\n\nconn = http.client.",
    code (if r.scheme = "https" then "HTTPSConnection" else "HTTPConnection"),
    code "(", json r.host, code ")\n"]
  ++ payload r
  ++ only r.hasHeaders (dictionary "headers" r.headers)
  ++ [code "\nconn.request(", json r.method, code ", ", json r.pathAndQuery]
  ++ only r.hasBody [code ", payload"]
  ++ only r.hasHeaders [code ", headers"]
  ++ [code ")\n\nres = conn.getresponse()\ndata = res.read()\n\n",
    code "print(data.decode(\"utf-8\"))\n"]

def requests : Printer := fun r =>
  [code "import requests\n\nurl = ", json r.url, code "\n"]
  ++ only r.hasQuery (dictionary "querystring" r.query)
  ++ payload r
  ++ only r.hasHeaders (dictionary "headers" r.headers)
  ++ [code "\nresponse = requests.request(", json r.method, code ", url"]
  ++ only r.hasBody [code ", data=payload"]
  ++ only r.hasHeaders [code ", headers=headers"]
  ++ only r.hasQuery [code ", params=querystring"]
  ++ [code ")\n\nprint(response.text)\n"]

end RequestCode.Client.Python
