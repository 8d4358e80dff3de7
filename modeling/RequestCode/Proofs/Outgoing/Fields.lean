import RequestCode.Outgoing

/-!
# Fields of outgoing requests

What an outgoing request has taken over from the request it was made of.
-/

namespace RequestCode.Outgoing

theorem ofRequest_eq_ok_iff {request : Request} {r : Outgoing} :
    ofRequest request = .ok r ↔ ∃ u, Url.read request.url = .ok u ∧ ofUrl request u = r := by
  unfold ofRequest
  cases Url.read request.url <;> simp [Except.map]

theorem method_eq {request : Request} {r : Outgoing} (h : ofRequest request = .ok r) :
    r.method = request.method := by
  obtain ⟨u, -, rfl⟩ := ofRequest_eq_ok_iff.mp h
  rfl

theorem httpVersion_eq {request : Request} {r : Outgoing} (h : ofRequest request = .ok r) :
    r.httpVersion = request.httpVersion := by
  obtain ⟨u, -, rfl⟩ := ofRequest_eq_ok_iff.mp h
  rfl

theorem headers_eq {request : Request} {r : Outgoing} (h : ofRequest request = .ok r) :
    r.headers = headersFor request.headers request.postData := by
  obtain ⟨u, -, rfl⟩ := ofRequest_eq_ok_iff.mp h
  rfl

/-- What an outgoing request has of the body: its text and its length in octets, and the type that
the request gives for it. -/
theorem body_eq {request : Request} {r : Outgoing} (h : ofRequest request = .ok r) :
    r.hasBody = request.hasBody ∧ r.body = request.postData.text.getD "" ∧
      r.bodyLength = Text.Utf8.size r.body.toList ∧ r.mimeType = request.postData.mimeType := by
  obtain ⟨u, -, rfl⟩ := ofRequest_eq_ok_iff.mp h
  exact ⟨rfl, rfl, rfl, rfl⟩

def payload? (r : Outgoing) : Option String := if r.hasBody then some r.body else none

theorem payload?_eq {request : Request} {r : Outgoing} (h : ofRequest request = .ok r) :
    r.payload? = request.postData.text := by
  obtain ⟨sent, body, -, -⟩ := body_eq h
  rw [payload?, sent, body, Request.hasBody]
  cases request.postData.text <;> rfl

theorem hasHeaders_congr {r s : Outgoing} (h : r.headers.length = s.headers.length) :
    r.hasHeaders = s.hasHeaders := by
  unfold hasHeaders
  cases hr : r.headers <;> cases hs : s.headers <;> simp_all

def sampleRequest : Request where
  method := "M;RM"
  url := "http://[::1]:8080/a b?x=it's&x#f"
  headers := [⟨"X-Note", "it's | \\\n\"$x\""⟩]
  query := [⟨"", "&=+ %#é"⟩]
  cookies := []
  httpVersion := "HTTP/1.1"
  headersSize := 0
  bodySize := 0
  postData := ⟨"", some "'\n"⟩

def sampleUrl : Url where
  scheme := "http"
  authority := some ⟨"", "", some (.ipv6 [0, 0, 0, 0, 0, 0, 0, 1]), some 8080⟩
  path := .segments ["a%20b"]
  query := some "x=it%27s&x"
  fragment := some "f"

theorem read_sampleRequest : Url.read sampleRequest.url = .ok sampleUrl := by rfl

theorem ofRequest_sampleRequest :
    ofRequest sampleRequest = .ok (ofUrl sampleRequest sampleUrl) :=
  ofRequest_eq_ok_iff.mpr ⟨sampleUrl, read_sampleRequest, rfl⟩

end RequestCode.Outgoing
