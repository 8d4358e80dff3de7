import RequestCode.Piece

/-!
# Clients in Java
-/

namespace RequestCode.Client.Java

open Piece

def netHttp : Printer := fun r =>
  [code "HttpRequest request = HttpRequest.newBuilder()\n    .uri(URI.create(",
    json r.fullUrl, code "))"]
  ++ each r.headers (fun h =>
    [code "\n    .header(", json h.name, code ", ", json h.value, code ")"])
  ++ [code "\n    .method(", json r.method, code ", "]
  ++ (if r.hasBody then [code "HttpRequest.BodyPublishers.ofString(", json r.body, code ")"]
    else [code "HttpRequest.BodyPublishers.noBody()"])
  ++ [code ")\n    .build();\n",
    code "HttpResponse<String> response = HttpClient.newHttpClient()",
    code ".send(request, HttpResponse.BodyHandlers.ofString());\n",
    code "System.out.println(response.body());\n"]

def okHttp : Printer := fun r =>
  [code "OkHttpClient client = new OkHttpClient();\n"]
  ++ only r.hasBody
    [code "\nMediaType mediaType = MediaType.parse(", json r.mimeType,
      code ");\nRequestBody body = RequestBody.create(mediaType, ", json r.body, code ");"]
  ++ [code "\nRequest request = new Request.Builder()\n  .url(", json r.fullUrl,
    code ")\n  .method(", json r.method, code ", ",
    code (if r.hasBody then "body" else "null"), code ")"]
  ++ each r.headers (fun h =>
    [code "\n  .addHeader(", json h.name, code ", ", json h.value, code ")"])
  ++ [code "\n  .build();\n\nResponse response = client.newCall(request).execute();\n"]

def unirest : Printer := fun r =>
  [code "HttpResponse<String> response = Unirest.",
    bare (.ofList (Text.lower r.method.toList)), code "(", json r.fullUrl, code ")"]
  ++ each r.headers (fun h =>
    [code "\n  .header(", json h.name, code ", ", json h.value, code ")"])
  ++ only r.hasBody [code "\n  .body(", json r.body, code ")"]
  ++ [code "\n  .asString();\n"]

end RequestCode.Client.Java
