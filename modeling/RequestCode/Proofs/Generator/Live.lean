import RequestCode.Generator.Basic
import RequestCode.Proofs.Bundle.Outcome
import RequestCode.Proofs.Outgoing.Repeated

/-!
# Snippets of live requests

What the generator of a target renders. Main statements: `liveSnippet_eq_ok_iff` and
`liveSnippet_eq_error_iff` describe its outcomes.
-/

namespace RequestCode

namespace Request

variable {request : Request} {id : String} {b : Bundle}

theorem bundle_singleton_eq_ok_iff :
    request.bundle [id] = .ok b ↔ ∃ r s, Outgoing.ofRequest request = .ok r ∧ s.Shows r id ∧
      s.mimeType = request.mimeType? ∧
      b = ⟨request.method, request.url, resourceName request.url, [s]⟩ := by
  rw [bundle_eq_ok_iff]
  constructor
  · rintro ⟨r, hr, hmethod, hurl, hresource, hsnippets⟩
    cases b with
    | mk method url resource snippets =>
      cases hsnippets with
      | cons hs hnil =>
        cases hnil
        obtain ⟨shows, hmime⟩ := hs
        exact ⟨r, _, hr, shows, hmime, by simp_all⟩
  · rintro ⟨r, s, hr, shows, hmime, rfl⟩
    exact ⟨r, hr, rfl, rfl, rfl, .cons ⟨shows, hmime⟩ .nil⟩

end Request

namespace Generator

variable {id : String} {s : Source} {u : Url} {content : String} {e : Error}

/-- The request that a generator renders; the URL has been read and is written again. -/
def liveRequest (s : Source) (u : Url) : Request :=
  .build u.text (fieldText s "method") (some (Params.ofPairs u.pairs)) (some (liveHeaders s))
    (some (fieldText s "body"))

def directRequest (s : Source) (u : Url) : Request :=
  .build u.text (fieldText s "method") none (some (liveHeaders s)) (some (fieldText s "body"))

theorem liveSnippet_of_read_ok (h : Url.read (fieldText s "url") = .ok u) :
    liveSnippet id s = (do
      let bundle ← (liveRequest s u).bundle [id]
      match bundle.snippets with
      | snippet :: _ => return snippet.content
      | [] => .error (.unknownTarget id)) := by
  unfold liveSnippet
  rw [h]
  rfl

theorem liveSnippet_eq_ok_iff :
    liveSnippet id s = .ok content ↔
      ∃ u r t, Url.read (fieldText s "url") = .ok u ∧
        Outgoing.ofRequest (liveRequest s u) = .ok r ∧ resolve? id = some t ∧
        r.convert t.language (some t.library) = .ok content := by
  cases h : Url.read (fieldText s "url") with
  | error cause => simp [liveSnippet, h]
  | ok u =>
    rw [liveSnippet_of_read_ok h, bind_eq_ok_iff]
    constructor
    · rintro ⟨b, hb, hcontent⟩
      obtain ⟨r, snippet, hr, ⟨-, t, ht, -, rendered⟩, -, rfl⟩ :=
        Request.bundle_singleton_eq_ok_iff.mp hb
      cases hcontent
      exact ⟨u, r, t, rfl, hr, ht, rendered⟩
    · rintro ⟨v, r, t, hv, hr, ht, rendered⟩
      cases hv
      refine ⟨_, Request.bundle_singleton_eq_ok_iff.mpr
        ⟨r, ⟨id, _, t.title, content⟩, hr, ⟨rfl, t, ht, rfl, rendered⟩, rfl, rfl⟩, rfl⟩

/-- Rendering fails at the URL, at the URL as it is written again, or at the target. -/
theorem liveSnippet_eq_error_iff :
    liveSnippet id s = .error e ↔
      (∃ cause, Url.read (fieldText s "url") = .error cause ∧ e = .url cause) ∨
        ∃ u, Url.read (fieldText s "url") = .ok u ∧
          ((∃ cause, Url.read u.text = .error cause ∧ e = .url cause) ∨
            ∃ v, Url.read u.text = .ok v ∧ resolve? id = none ∧ e = .unknownTarget id) := by
  cases h : Url.read (fieldText s "url") with
  | error cause => simp [liveSnippet, h, eq_comm]
  | ok u =>
    have url_eq : (liveRequest s u).url = u.text := rfl
    have failed : (liveRequest s u).bundle [id] = .error e ↔
        (∃ cause, Url.read u.text = .error cause ∧ e = .url cause) ∨
          ∃ v, Url.read u.text = .ok v ∧ resolve? id = none ∧ e = .unknownTarget id := by
      rw [Request.bundle_eq_error_iff, url_eq]
      simp [List.find?_singleton]
    rw [liveSnippet_of_read_ok h]
    simp only [reduceCtorEq, false_and, exists_false, false_or, Except.ok.injEq, exists_eq_left']
    rw [← failed]
    cases hb : (liveRequest s u).bundle [id] with
    | error d => simp [bind, Except.bind]
    | ok b =>
      obtain ⟨r, snippet, -, -, -, rfl⟩ := Request.bundle_singleton_eq_ok_iff.mp hb
      constructor <;> intro impossible <;> cases impossible

def sampleRecord : Record := ⟨"get", "http://[::1]/a b?id=1&id=2#f", none, none⟩

def sampleLiveUrl : Url where
  scheme := "http"
  authority := some ⟨"", "", some (.ipv6 [0, 0, 0, 0, 0, 0, 0, 1]), none⟩
  path := .segments ["a%20b"]
  query := some "id=1&id=2"
  fragment := some "f"

theorem read_sampleRecord :
    Url.read (fieldText sampleRecord.source "url") = .ok sampleLiveUrl := by rfl

theorem read_text_sampleLiveUrl : Url.read sampleLiveUrl.text = .ok sampleLiveUrl := by
  have written : sampleLiveUrl.text = "http://[::1]/a%20b?id=1&id=2#f" := by decide +kernel
  rw [written]
  rfl

end Generator

end RequestCode
