import RequestCode.Piece

/-!
# Clients in Kotlin
-/

namespace RequestCode.Client.Kotlin

open Piece

def okHttp : Printer := fun r =>
  [code "val client = OkHttpClient()\n"]
  ++ only r.hasBody
    [code "\nval mediaType = MediaType.parse(", quoted .template r.mimeType,
      code ")\nval body = RequestBody.create(mediaType, ", quoted .template r.body, code ")"]
  ++ [code "\nval request = Request.Builder()\n  .url(", quoted .template r.fullUrl,
    code ")\n  .method(", quoted .template r.method, code ", ",
    code (if r.hasBody then "body" else "null"), code ")"]
  ++ each r.headers (fun h =>
    [code "\n  .addHeader(", quoted .template h.name, code ", ", quoted .template h.value,
      code ")"])
  ++ [code "\n  .build()\n\nval response = client.newCall(request).execute()\n"]

end RequestCode.Client.Kotlin
