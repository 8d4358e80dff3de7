import RequestCode.Proofs.Catalog.Bodiless
import RequestCode.Proofs.Catalog.Keys
import RequestCode.Proofs.Outgoing.Fields
import RequestCode.Proofs.Traversal

/-!
# What snippets depend on

Requests that agree on what is sent are rendered alike; the version of HTTP counts for plain HTTP
messages only. Without a body, all texts of a snippet come from the URL, the method, the parameters
and the headers. Main statement: `snippets_of_relevant_fields`.
-/

namespace RequestCode

open Piece

/-- The requests agree on what is sent: on the type of the body only if there is one. -/
structure Request.Agrees (a b : Request) : Prop where
  method_eq : a.method = b.method
  url_eq : a.url = b.url
  headers_eq : a.headers = b.headers
  query_eq : a.query = b.query
  text_eq : a.postData.text = b.postData.text
  mimeType_eq : a.hasBody = true → a.postData.mimeType = b.postData.mimeType

namespace Request.Agrees

variable {a b : Request}

theorem headersFor_eq (h : a.Agrees b) :
    Outgoing.headersFor a.headers a.postData = Outgoing.headersFor b.headers b.postData := by
  rw [Outgoing.headersFor, Outgoing.headersFor, ← h.headers_eq, ← h.text_eq]
  cases sent : a.hasBody with
  | false =>
    rw [Request.hasBody] at sent
    rw [sent]
    rfl
  | true => rw [h.mimeType_eq sent]

theorem ofUrl_eq (h : a.Agrees b) (u : Url) :
    Outgoing.ofUrl a u =
      { Outgoing.ofUrl b u with
        httpVersion := a.httpVersion, mimeType := a.postData.mimeType } := by
  simp only [Outgoing.ofUrl, Request.hasBody, h.method_eq, h.query_eq, h.text_eq, h.headersFor_eq]

theorem ofRequest_eq {ra rb : Outgoing} (h : a.Agrees b) (ha : Outgoing.ofRequest a = .ok ra)
    (hb : Outgoing.ofRequest b = .ok rb) :
    ra = { rb with httpVersion := a.httpVersion, mimeType := a.postData.mimeType } ∧
      rb.httpVersion = b.httpVersion ∧ (rb.hasBody = true → a.postData.mimeType = rb.mimeType) := by
  obtain ⟨u, read, rfl⟩ := Outgoing.ofRequest_eq_ok_iff.mp ha
  obtain ⟨v, read', rfl⟩ := Outgoing.ofRequest_eq_ok_iff.mp hb
  rw [h.url_eq, read'] at read
  cases read
  refine ⟨h.ofUrl_eq u, rfl, ?_⟩
  intro sent
  apply h.mimeType_eq
  rwa [Request.hasBody, h.text_eq]

end Request.Agrees

namespace Catalog

theorem printer_httpVersion : ∀ l ∈ languages, l.key ≠ "http" → ∀ c ∈ l.clients,
    ∀ (r : Outgoing) (version : String),
      c.printer { r with httpVersion := version } = c.printer r := by
  simp only [languages, Language.clients, c, clojure, cSharp, go, http, java, javaScript, kotlin,
    node, php, powerShell, python, ruby, rust, shell, swift, List.forall_mem_cons,
    List.not_mem_nil, false_implies, implies_true, and_true, ne_eq, not_true_eq_false, true_and]
  and_intros <;> intro _ <;> and_intros <;> intro r version <;> rfl

end Catalog

namespace Outgoing

def NamesHttp (language : String) (library : Option String) : Prop :=
  language = "http" ∧ (library = none ∨ library = some "http1.1")

variable {language : String} {library : Option String} {r : Outgoing} {c : Client}

theorem namesHttp_of_findClient {l : Language} (h : l ∈ Catalog.languages) (key : l.key = "http")
    (offered : c ∈ l.clients) (found : library = none ∧ c = l.default ∨ library = some c.key) :
    NamesHttp l.key library := by
  have listed : Catalog.find? l.key = some l := Catalog.find?_key h
  rw [key] at listed
  obtain rfl : l = Catalog.http := (Option.some.inj listed).symm
  obtain rfl : c = Catalog.http.default := List.mem_singleton.mp offered
  exact ⟨key, found.imp And.left id⟩

/-- The version of HTTP counts for plain HTTP messages only. -/
theorem convert_httpVersion {version : String}
    (h : NamesHttp language library → version = r.httpVersion) :
    convert { r with httpVersion := version } language library = r.convert language library := by
  unfold convert
  cases found : findClient language library with
  | error e => rfl
  | ok c =>
    obtain ⟨l, mem, rfl, offered, chosen⟩ := findClient_eq_ok_iff.mp found
    by_cases key : l.key = "http"
    · rw [h (namesHttp_of_findClient mem key offered chosen)]
    · simp only [Except.map, Catalog.printer_httpVersion l mem key c offered]

theorem bodiless_of_findClient (found : findClient language library = .ok c)
    (h : r.hasBody = false) :
    (∀ p ∈ c.printer r, p.IsBodiless r) ∧ ∀ body length type,
      c.printer { r with body := body, bodyLength := length, mimeType := type } = c.printer r := by
  obtain ⟨l, mem, -, offered, -⟩ := findClient_eq_ok_iff.mp found
  exact ⟨Catalog.bodiless_printer h l mem c offered, Catalog.printer_unread l mem c offered r h⟩

/-- The type of a body counts only if there is a body. -/
theorem convert_mimeType {type : String} (h : r.hasBody = true → type = r.mimeType) :
    convert { r with mimeType := type } language library = r.convert language library := by
  unfold convert
  cases found : findClient language library with
  | error e => rfl
  | ok c =>
    by_cases sent : r.hasBody = true
    · rw [h sent]
    · have unread := (bodiless_of_findClient found (eq_false_of_ne_true sent)).2
      simp only [Except.map, unread r.body r.bodyLength type]

end Outgoing

/-- Requests that agree on what is sent are rendered alike by every client, plain HTTP messages
only if they agree on the version as well. Without a body no header is added, and the client that
is found prints texts of the URL, the method, the version, the parameters and the headers, and fixed
texts that mention no length and no type of a body, whatever is said of the body there is not. -/
theorem snippets_of_relevant_fields {a : Request} {ra : Outgoing}
    (ha : Outgoing.ofRequest a = .ok ra) :
    (∀ b rb, Outgoing.ofRequest b = .ok rb → a.Agrees b → ∀ language library,
      (Outgoing.NamesHttp language library → a.httpVersion = b.httpVersion) →
      ra.convert language library = rb.convert language library) ∧
    (a.hasBody = false → ra.headers = a.headers ∧ ∀ language library c,
      findClient language library = .ok c →
      ra.convert language library = .ok (Piece.render (c.printer ra)) ∧
        (∀ p ∈ c.printer ra, p.IsBodiless ra) ∧ ∀ body length type,
          c.printer { ra with body := body, bodyLength := length, mimeType := type } =
            c.printer ra) := by
  refine ⟨?_, ?_⟩
  · intro b rb hb agree language library version
    obtain ⟨rfl, kept, type⟩ := agree.ofRequest_eq ha hb
    have alike := Outgoing.convert_httpVersion (r := { rb with mimeType := a.postData.mimeType })
      fun named => (version named).trans kept.symm
    exact alike.trans (Outgoing.convert_mimeType type)
  · intro bodiless
    have sent : ra.hasBody = false := (Outgoing.body_eq ha).1.trans bodiless
    refine ⟨?_, ?_⟩
    · rw [Request.hasBody] at bodiless
      rw [Outgoing.headers_eq ha, Outgoing.headersFor, bodiless]
      rfl
    · intro language library c found
      refine ⟨?_, Outgoing.bodiless_of_findClient found sent⟩
      rw [Outgoing.convert, found]
      rfl

def sampleBodiless : Request :=
  { Outgoing.sampleRequest with postData := ⟨"text/plain", none⟩ }

def sampleVariant : Request :=
  { Outgoing.sampleRequest with
    cookies := [⟨"a", "b"⟩]
    httpVersion := "HTTP/2"
    headersSize := 7
    bodySize := 5
    postData := ⟨"", none⟩ }

theorem snippets_of_relevant_fields_sample :
    (Outgoing.ofUrl sampleBodiless Outgoing.sampleUrl).convert "csharp" (some "httpclient") =
        (Outgoing.ofUrl sampleVariant Outgoing.sampleUrl).convert "csharp" (some "httpclient") ∧
      (Outgoing.ofUrl sampleBodiless Outgoing.sampleUrl).headers = sampleBodiless.headers ∧
      ∀ p ∈ Client.CSharp.httpClient (Outgoing.ofUrl sampleBodiless Outgoing.sampleUrl),
        p.IsBodiless (Outgoing.ofUrl sampleBodiless Outgoing.sampleUrl) := by
  have sent : Outgoing.ofRequest sampleBodiless = .ok (Outgoing.ofUrl sampleBodiless _) :=
    Outgoing.ofRequest_eq_ok_iff.mpr ⟨_, Outgoing.read_sampleRequest, rfl⟩
  have sent' : Outgoing.ofRequest sampleVariant = .ok (Outgoing.ofUrl sampleVariant _) :=
    Outgoing.ofRequest_eq_ok_iff.mpr ⟨_, Outgoing.read_sampleRequest, rfl⟩
  have agree : sampleBodiless.Agrees sampleVariant := ⟨rfl, rfl, rfl, rfl, rfl, nofun⟩
  obtain ⟨alike, bodiless⟩ := snippets_of_relevant_fields sent
  obtain ⟨headers, printed⟩ := bodiless rfl
  obtain ⟨-, pieces, -⟩ := printed "csharp" (some "httpclient") _ rfl
  refine ⟨alike _ _ sent' agree _ _ ?_, headers, pieces⟩
  rintro ⟨impossible, -⟩
  exact absurd impossible (by decide)

end RequestCode
