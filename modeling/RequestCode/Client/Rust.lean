import RequestCode.Piece

/-!
# Clients in Rust
-/

namespace RequestCode.Client.Rust

open Piece

def str (text : String) : Piece := quoted .braced text

def reqwest : Printer := fun r =>
  [code "#[tokio::main]\n",
    code "pub async fn main() -> Result<(), Box<dyn std::error::Error>> \x7b\n",
    code "    let client = reqwest::Client::new();"]
  ++ only r.hasHeaders (
    [code "\n\n    let mut headers = reqwest::header::HeaderMap::new();"]
    ++ each r.headers (fun h =>
      [code "\n    headers.insert(", str (.ofList (Text.lower h.name.toList)), code ", ",
        str h.value, code ".parse()?);"]))
  ++ [code "\n\n    let response = client\n        .request(reqwest::Method::from_bytes(",
    str r.method, code ".as_bytes())?, ", str r.fullUrl, code ")"]
  ++ only r.hasHeaders [code "\n        .headers(headers)"]
  ++ only r.hasBody [code "\n        .body(", str r.body, code ")"]
  ++ [code "\n        .send()\n        .await?;\n\n",
    code "    println!(\"\x7b\x7d\", response.text().await?);\n\n    Ok(())\n\x7d\n"]

end RequestCode.Client.Rust
