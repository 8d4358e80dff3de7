import RequestCode.Piece

/-!
# Clients in PHP
-/

namespace RequestCode.Client.Php

open Piece

def str (text : String) : Piece := quoted .apostrophe text

def curl : Printer := fun r =>
  [code "<?php\n\n$curl = curl_init();\n\ncurl_setopt_array($curl, [\n  CURLOPT_URL => ",
    str r.fullUrl,
    code ",\n  CURLOPT_RETURNTRANSFER => true,\n  CURLOPT_ENCODING => \"\",\n",
    code "  CURLOPT_MAXREDIRS => 10,\n  CURLOPT_TIMEOUT => 30,\n",
    code "  CURLOPT_HTTP_VERSION => CURL_HTTP_VERSION_1_1,\n  CURLOPT_CUSTOMREQUEST => ",
    str r.method, code ","]
  ++ only r.hasBody [code "\n  CURLOPT_POSTFIELDS => ", str r.body, code ","]
  ++ only r.hasHeaders (
    [code "\n  CURLOPT_HTTPHEADER => ["]
    ++ eachWith (code ",") (fun h => [code "\n    ", str (headerLine h)]) r.headers
    ++ [code "\n  ],"])
  ++ [code "\n]);\n\n$response = curl_exec($curl);\n$err = curl_error($curl);\n\n",
    code "curl_close($curl);\n\nif ($err) \x7b\n  echo \"cURL Error #:\" . $err;\n",
    code "\x7d else \x7b\n  echo $response;\n\x7d\n"]

def guzzle : Printer := fun r =>
  [code "<?php\n\n$client = new \\GuzzleHttp\\Client();\n\n$response = $client->request(",
    str r.method, code ", ", str r.fullUrl, code ", ["]
  ++ only r.hasBody [code "\n  'body' => ", str r.body, code ","]
  ++ only r.hasHeaders (
    [code "\n  'headers' => ["]
    ++ each r.headers (fun h =>
      [code "\n    ", str h.name, code " => ", str h.value, code ","])
    ++ [code "\n  ],"])
  ++ [code "\n]);\n\necho $response->getBody();\n"]

end RequestCode.Client.Php
