import RequestCode.Piece

/-!
# Clients in JavaScript for browsers
-/

namespace RequestCode.Client.JavaScript

open Piece

/-- A member that is an object, after the members before it. -/
def objectMember (name : String) (ps : List Param) : List Piece :=
  [code (",\n  " ++ name ++ ": \x7b")] ++ members "    " .json ps ++ [code "\n  \x7d"]

def textMember (name text : String) : List Piece := [code (",\n  " ++ name ++ ": "), json text]

def axios : Printer := fun r =>
  [code "import axios from \"axios\";\n\nconst options = \x7b\n  method: ", json r.method,
    code ",\n  url: ", json r.url]
  ++ only r.hasQuery (objectMember "params" r.query)
  ++ only r.hasHeaders (objectMember "headers" r.headers)
  ++ only r.hasBody (textMember "data" r.body)
  ++ [code "\n\x7d;\n\ntry \x7b\n  const \x7b data \x7d = await axios.request(options);\n",
    code "  console.log(data);\n\x7d catch (error) \x7b\n  console.error(error);\n\x7d\n"]

def fetch : Printer := fun r =>
  [code "const url = ", json r.fullUrl, code ";\nconst options = \x7b\n  method: ", json r.method]
  ++ only r.hasHeaders (objectMember "headers" r.headers)
  ++ only r.hasBody (textMember "body" r.body)
  ++ [code "\n\x7d;\n\ntry \x7b\n  const response = await fetch(url, options);\n",
    code "  const data = await response.text();\n  console.log(data);\n",
    code "\x7d catch (error) \x7b\n  console.error(error);\n\x7d\n"]

def jquery : Printer := fun r =>
  [code "const settings = \x7b\n  \"async\": true,\n  \"crossDomain\": true,\n  \"url\": ",
    json r.fullUrl, code ",\n  \"method\": ", json r.method]
  ++ only r.hasHeaders (objectMember "\"headers\"" r.headers)
  ++ only r.hasBody ([code ",\n  \"processData\": false"] ++ textMember "\"data\"" r.body)
  ++ [code "\n\x7d;\n\n$.ajax(settings).done(function (response) \x7b\n",
    code "  console.log(response);\n\x7d);\n"]

def xhr : Printer := fun r =>
  [code "const data = "]
  ++ (if r.hasBody then [json r.body] else [code "null"])
  ++ [code ";\n\nconst xhr = new XMLHttpRequest();\nxhr.withCredentials = true;\n\n",
    code "xhr.addEventListener(\"readystatechange\", function () \x7b\n",
    code "  if (this.readyState === this.DONE) \x7b\n",
    code "    console.log(this.responseText);\n  \x7d\n\x7d);\n\n",
    code "xhr.open(", json r.method, code ", ", json r.fullUrl, code ");"]
  ++ each r.headers (fun h =>
    [code "\nxhr.setRequestHeader(", json h.name, code ", ", json h.value, code ");"])
  ++ [code "\n\nxhr.send(data);\n"]

end RequestCode.Client.JavaScript
