import RequestCode.Client.JavaScript

/-!
# Clients in JavaScript for Node.js
-/

namespace RequestCode.Client.Node

open Piece JavaScript

def axios : Printer := fun r =>
  [code "const axios = require(\"axios\").default;\n\nconst options = \x7b\n  method: ",
    json r.method, code ",\n  url: ", json r.url]
  ++ only r.hasQuery (objectMember "params" r.query)
  ++ only r.hasHeaders (objectMember "headers" r.headers)
  ++ only r.hasBody (textMember "data" r.body)
  ++ [code "\n\x7d;\n\naxios.request(options).then(function (response) \x7b\n",
    code "  console.log(response.data);\n\x7d).catch(function (error) \x7b\n",
    code "  console.error(error);\n\x7d);\n"]

def fetch : Printer := fun r =>
  [code "const fetch = require(\"node-fetch\");\n\nconst url = ", json r.fullUrl,
    code ";\nconst options = \x7b\n  method: ", json r.method]
  ++ only r.hasHeaders (objectMember "headers" r.headers)
  ++ only r.hasBody (textMember "body" r.body)
  ++ [code "\n\x7d;\n\nfetch(url, options)\n  .then(res => res.text())\n",
    code "  .then(text => console.log(text))\n",
    code "  .catch(err => console.error(\"error:\" + err));\n"]

def native : Printer := fun r =>
  [code "const http = require(\"", bare r.scheme,
    code "\");\n\nconst options = \x7b\n  \"method\": ", json r.method,
    code ",\n  \"hostname\": ", json r.hostname,
    code ",\n  \"port\": ", bare (.ofList (Text.decimal r.port)),
    code ",\n  \"path\": ", json r.pathAndQuery, code ",\n  \"headers\": \x7b"]
  ++ members "    " .json r.headers
  ++ [code "\n  \x7d\n\x7d;\n\nconst req = http.request(options, function (res) \x7b\n",
    code "  const chunks = [];\n\n  res.on(\"data\", function (chunk) \x7b\n",
    code "    chunks.push(chunk);\n  \x7d);\n\n  res.on(\"end\", function () \x7b\n",
    code "    const body = Buffer.concat(chunks);\n    console.log(body.toString());\n",
    code "  \x7d);\n\x7d);\n"]
  ++ only r.hasBody [code "\nreq.write(", json r.body, code ");"]
  ++ [code "\nreq.end();\n"]

def request : Printer := fun r =>
  [code "const request = require(\"request\");\n\nconst options = \x7b\n  method: ",
    json r.method, code ",\n  url: ", json r.url]
  ++ only r.hasQuery (objectMember "qs" r.query)
  ++ only r.hasHeaders (objectMember "headers" r.headers)
  ++ only r.hasBody (textMember "body" r.body)
  ++ [code "\n\x7d;\n\nrequest(options, function (error, response, body) \x7b\n",
    code "  if (error) throw new Error(error);\n\n  console.log(body);\n\x7d);\n"]

end RequestCode.Client.Node
