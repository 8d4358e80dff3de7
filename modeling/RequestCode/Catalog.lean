import RequestCode.Client.C
import RequestCode.Client.CSharp
import RequestCode.Client.Clojure
import RequestCode.Client.Go
import RequestCode.Client.Http
import RequestCode.Client.Java
import RequestCode.Client.JavaScript
import RequestCode.Client.Kotlin
import RequestCode.Client.Node
import RequestCode.Client.Php
import RequestCode.Client.PowerShell
import RequestCode.Client.Python
import RequestCode.Client.Ruby
import RequestCode.Client.Rust
import RequestCode.Client.Shell
import RequestCode.Client.Swift

/-!
# The catalog

The languages that snippets are rendered in, the client libraries of each, and its default client.
-/

namespace RequestCode

/-- A client library of a language. -/
structure Client where
  key : String
  title : String
  link : String
  description : String
  printer : Printer

/-- A language with its clients, the default one first. -/
structure Language where
  key : String
  title : String
  default : Client
  others : List Client

namespace Language

def clients (l : Language) : List Client := l.default :: l.others

def client? (l : Language) (key : String) : Option Client := l.clients.find? (·.key = key)

end Language

namespace Catalog

open Client

def c : Language where
  key := "c"
  title := "C"
  default :=
    ⟨"libcurl", "Libcurl",
     "http://curl.haxx.se/libcurl",
     "Simple REST and HTTP API Client for C",
     C.libcurl⟩
  others := []

def clojure : Language where
  key := "clojure"
  title := "Clojure"
  default :=
    ⟨"clj_http", "clj-http",
     "https://github.com/dakrone/clj-http",
     "An idiomatic clojure http client wrapping the apache client.",
     Clojure.cljHttp⟩
  others := []

def cSharp : Language where
  key := "csharp"
  title := "C#"
  default :=
    ⟨"restsharp", "RestSharp",
     "http://restsharp.org/",
     "Simple REST and HTTP API Client for .NET",
     CSharp.restSharp⟩
  others :=
    [⟨"httpclient", "HttpClient",
       "https://docs.microsoft.com/en-us/dotnet/api/system.net.http.httpclient",
       ".NET Standard HTTP Client",
       CSharp.httpClient⟩]

def go : Language where
  key := "go"
  title := "Go"
  default :=
    ⟨"native", "NewRequest",
     "http://golang.org/pkg/net/http/#NewRequest",
     "Golang HTTP client request",
     Go.newRequest⟩
  others := []

def http : Language where
  key := "http"
  title := "HTTP"
  default :=
    ⟨"http1.1", "HTTP/1.1",
     "https://tools.ietf.org/html/rfc7230",
     "HTTP/1.1 request string in accordance with RFC 7230",
     Http.http11⟩
  others := []

def java : Language where
  key := "java"
  title := "Java"
  default :=
    ⟨"unirest", "Unirest",
     "http://unirest.io/java.html",
     "Lightweight HTTP Request Client Library",
     Java.unirest⟩
  others :=
    [⟨"okhttp", "OkHttp",
       "http://square.github.io/okhttp/",
       "An HTTP Request Client Library",
       Java.okHttp⟩,
      ⟨"nethttp", "java.net.http",
       "https://openjdk.java.net/groups/net/httpclient/intro.html",
       "Java Standardized HTTP Client API",
       Java.netHttp⟩]

def javaScript : Language where
  key := "javascript"
  title := "JavaScript"
  default :=
    ⟨"xhr", "XMLHttpRequest",
     "https://developer.mozilla.org/en-US/docs/Web/API/XMLHttpRequest",
     "W3C Standard API that provides scripted client functionality",
     JavaScript.xhr⟩
  others :=
    [⟨"fetch", "fetch",
       "https://developer.mozilla.org/en-US/docs/Web/API/Fetch_API",
       "Perform asynchronous HTTP requests with the Fetch API",
       JavaScript.fetch⟩,
      ⟨"axios", "Axios",
       "https://github.com/axios/axios",
       "Promise based HTTP client for the browser and node.js",
       JavaScript.axios⟩,
      ⟨"jquery", "jQuery",
       "http://api.jquery.com/jquery.ajax/",
       "Perform an asynchronous HTTP (Ajax) requests with jQuery",
       JavaScript.jquery⟩]

def kotlin : Language where
  key := "kotlin"
  title := "Kotlin"
  default :=
    ⟨"okhttp", "OkHttp",
     "http://square.github.io/okhttp/",
     "An HTTP Request Client Library",
     Kotlin.okHttp⟩
  others := []

def node : Language where
  key := "node"
  title := "Node.js"
  default :=
    ⟨"native", "HTTP",
     "http://nodejs.org/api/http.html#http_http_request_options_callback",
     "Node.js native HTTP interface",
     Node.native⟩
  others :=
    [⟨"request", "Request",
       "https://github.com/request/request",
       "Simplified HTTP request client",
       Node.request⟩,
      ⟨"axios", "Axios",
       "https://github.com/axios/axios",
       "Promise based HTTP client for the browser and node.js",
       Node.axios⟩,
      ⟨"fetch", "Fetch",
       "https://github.com/bitinn/node-fetch",
       "Simplified HTTP node-fetch client",
       Node.fetch⟩]

def php : Language where
  key := "php"
  title := "PHP"
  default :=
    ⟨"curl", "cURL",
     "http://php.net/manual/en/book.curl.php",
     "PHP with ext-curl",
     Php.curl⟩
  others :=
    [⟨"guzzle", "Guzzle",
       "http://docs.guzzlephp.org/en/stable/",
       "PHP with Guzzle",
       Php.guzzle⟩]

def powerShell : Language where
  key := "powershell"
  title := "PowerShell"
  default :=
    ⟨"webrequest", "Invoke-WebRequest",
     "https://docs.microsoft.com/en-us/powershell/module/Microsoft.PowerShell.Utility/Invoke-WebRequest",
     "Powershell Invoke-WebRequest client",
     PowerShell.webRequest⟩
  others :=
    [⟨"restmethod", "Invoke-RestMethod",
       "https://docs.microsoft.com/en-us/powershell/module/Microsoft.PowerShell.Utility/Invoke-RestMethod",
       "Powershell Invoke-RestMethod client",
       PowerShell.restMethod⟩]

def python : Language where
  key := "python"
  title := "Python"
  default :=
    ⟨"python3", "http.client",
     "https://docs.python.org/3/library/http.client.html",
     "Python3 HTTP Client",
     Python.httpClient⟩
  others :=
    [⟨"requests", "Requests",
       "http://docs.python-requests.org/en/latest/api/#requests.request",
       "Requests HTTP library",
       Python.requests⟩]

def ruby : Language where
  key := "ruby"
  title := "Ruby"
  default :=
    ⟨"native", "net::http",
     "http://ruby-doc.org/stdlib-2.2.1/libdoc/net/http/rdoc/Net/HTTP.html",
     "Ruby HTTP client",
     Ruby.netHttp⟩
  others := []

def rust : Language where
  key := "rust"
  title := "Rust"
  default :=
    ⟨"reqwest", "reqwest",
     "https://docs.rs/reqwest/latest/reqwest/",
     "reqwest HTTP library",
     Rust.reqwest⟩
  others := []

def shell : Language where
  key := "shell"
  title := "Shell"
  default :=
    ⟨"curl", "cURL",
     "http://curl.haxx.se/",
     "cURL is a command line tool and library for transferring data with URL syntax",
     Shell.curl⟩
  others :=
    [⟨"httpie", "HTTPie",
       "http://httpie.org/",
       "a CLI, cURL-like tool for humans",
       Shell.httpie⟩,
      ⟨"wget", "Wget",
       "https://www.gnu.org/software/wget/",
       "a free software package for retrieving files using HTTP, HTTPS",
       Shell.wget⟩]

def swift : Language where
  key := "swift"
  title := "Swift"
  default :=
    ⟨"nsurlsession", "NSURLSession",
     "https://developer.apple.com/library/mac/documentation/Foundation/Reference/NSURLSession_class/index.html",
     "Foundation's NSURLSession request",
     Swift.urlSession⟩
  others := []

/-- All languages, in the order they are listed. -/
def languages : List Language :=
  [c, clojure, cSharp, go, http, java, javaScript, kotlin,
    node, php, powerShell, python, ruby, rust, shell, swift]

def find? (key : String) : Option Language := languages.find? (·.key = key)

end Catalog

end RequestCode
