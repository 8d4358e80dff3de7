import RequestCode.Param
import RequestCode.Text.Case

/-!
# Requests

The canonical record of a request, and how it is assembled from loose parts.
-/

namespace RequestCode

/-- What a request sends along; a text may be missing, and an empty one still counts as a body. -/
structure PostData where
  mimeType : String
  text : Option String
  deriving DecidableEq

structure Request where
  method : String
  url : String
  headers : List Param
  query : List Param
  cookies : List Param
  httpVersion : String
  headersSize : Int
  bodySize : Int
  postData : PostData
  deriving DecidableEq

/-- The type of a body that is sent without a content type. -/
def defaultMimeType : String := "application/octet-stream"

def isContentType (p : Param) : Bool := Text.sameIgnoringAsciiCase p.name "content-type"

/-- The value of the first content-type header. -/
def contentType? (headers : List Param) : Option String :=
  (headers.find? isContentType).map (·.value)

namespace Request

def hasBody (r : Request) : Bool := r.postData.text.isSome

/-- The body of a request with these headers; an empty text is no body. -/
def bodyOf (headers : List Param) (text : String) : PostData :=
  if text = "" then ⟨"", none⟩
  else ⟨(contentType? headers).getD defaultMimeType, some text⟩

/-- Assemble a request. -/
def build (url method : String) (query headers : Option Params) (body : Option String) : Request :=
  let headers := (headers.map Params.toList).getD []
  { method := .ofList (Text.upper method.toList)
    url := url
    headers := headers
    query := (query.map Params.toList).getD []
    cookies := []
    httpVersion := "HTTP/1.1"
    headersSize := 0
    bodySize := 0
    postData := bodyOf headers (body.getD "") }

end Request

end RequestCode
