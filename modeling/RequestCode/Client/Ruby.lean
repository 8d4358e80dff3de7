import RequestCode.Piece

/-!
# Clients in Ruby
-/

namespace RequestCode.Client.Ruby

open Piece

def str (text : String) : Piece := quoted .apostrophe text

/-- The methods with a request class of their own. -/
def requestClasses : List (String × String) :=
  [("GET", "Get"), ("POST", "Post"), ("PUT", "Put"), ("PATCH", "Patch"), ("DELETE", "Delete"),
    ("HEAD", "Head"), ("OPTIONS", "Options"), ("TRACE", "Trace"), ("COPY", "Copy"),
    ("LOCK", "Lock"), ("UNLOCK", "Unlock"), ("MKCOL", "Mkcol"), ("MOVE", "Move"),
    ("PROPFIND", "Propfind"), ("PROPPATCH", "Proppatch")]

def requestClass? (method : String) : Option String := requestClasses.lookup method

/-- The request object: of the class of its method, or a generic one that is told the method and
whether it has a body. -/
def newRequest (r : Outgoing) : List Piece :=
  match requestClass? r.method with
  | some name => [code ("request = Net::HTTP::" ++ name ++ ".new(url)")]
  | none =>
    [code "request = Net::HTTPGenericRequest.new(", str r.method, code ", ",
      code (if r.hasBody then "true" else "false"), code ", true, url)"]

def netHttp : Printer := fun r =>
  [code "require 'uri'\nrequire 'net/http'\n\nurl = URI(", str r.fullUrl,
    code ")\n\nhttp = Net::HTTP.new(url.host, url.port)"]
  ++ only (r.scheme = "https") [code "\nhttp.use_ssl = true"]
  ++ [code "\n\n"]
  ++ newRequest r
  ++ each r.headers (fun h => [code "\nrequest[", str h.name, code "] = ", str h.value])
  ++ only r.hasBody [code "\nrequest.body = ", str r.body]
  ++ [code "\n\nresponse = http.request(request)\nputs response.read_body\n"]

end RequestCode.Client.Ruby
