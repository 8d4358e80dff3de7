import RequestCode.Piece

/-!
# Clients in C#
-/

namespace RequestCode.Client.CSharp

open Piece

def httpClient : Printer := fun r =>
  [code "var client = new HttpClient();\nvar request = new HttpRequestMessage\n\x7b\n",
    code "    Method = new HttpMethod(", json r.method, code "),\n",
    code "    RequestUri = new Uri(", json r.fullUrl, code "),"]
  ++ only r.hasHeaders (
    [code "\n    Headers =\n    \x7b"]
    ++ each r.headers (fun h =>
      [code "\n        \x7b ", json h.name, code ", ", json h.value, code " \x7d,"])
    ++ [code "\n    \x7d,"])
  ++ only r.hasBody
    [code "\n    Content = new StringContent(", json r.body, code ")\n    \x7b\n",
      code "        Headers =\n        \x7b\n",
      code "            ContentType = new MediaTypeHeaderValue(", json r.mimeType,
      code ")\n        \x7d\n    \x7d"]
  ++ [code "\n\x7d;\nusing (var response = await client.SendAsync(request))\n\x7b\n",
    code "    response.EnsureSuccessStatusCode();\n",
    code "    var body = await response.Content.ReadAsStringAsync();\n",
    code "    Console.WriteLine(body);\n\x7d\n"]

def restSharp : Printer := fun r =>
  [code "var client = new RestClient(", json r.fullUrl,
    code ");\nvar request = new RestRequest(Method.",
    bare (.ofList (Text.upper r.method.toList)), code ");"]
  ++ each r.headers (fun h =>
    [code "\nrequest.AddHeader(", json h.name, code ", ", json h.value, code ");"])
  ++ only r.hasBody
    [code "\nrequest.AddParameter(", json r.mimeType, code ", ", json r.body,
      code ", ParameterType.RequestBody);"]
  ++ [code "\nIRestResponse response = client.Execute(request);\n"]

end RequestCode.Client.CSharp
