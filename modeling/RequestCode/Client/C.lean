import RequestCode.Piece

/-!
# Clients in C
-/

namespace RequestCode.Client.C

open Piece

def libcurl : Printer := fun r =>
  [code "CURL *hnd = curl_easy_init();\n\ncurl_easy_setopt(hnd, CURLOPT_CUSTOMREQUEST, ",
    json r.method, code ");\ncurl_easy_setopt(hnd, CURLOPT_URL, ", json r.fullUrl, code ");\n"]
  ++ only r.hasHeaders (
    [code "\nstruct curl_slist *headers = NULL;"]
    ++ each r.headers (fun h =>
      [code "\nheaders = curl_slist_append(headers, ", json (headerLine h), code ");"])
    ++ [code "\ncurl_easy_setopt(hnd, CURLOPT_HTTPHEADER, headers);\n"])
  ++ only r.hasBody
    [code "\ncurl_easy_setopt(hnd, CURLOPT_POSTFIELDS, ", json r.body, code ");\n"]
  ++ [code "\nCURLcode ret = curl_easy_perform(hnd);\n"]

end RequestCode.Client.C
