import RequestCode.Proofs.Bundle.Outcome

/-!
# The type of a body

The type is settled when a request is assembled, a header is added when it is sent, and every
snippet carries the type. Main statement: `type_of_body_agrees`, the three do not contradict each
other, whatever headers the caller gives.
-/

namespace RequestCode

def shownType (type : String) : Option String := if type = "" then none else some type

theorem shownType_injective {a b : String} (h : shownType a = shownType b) : a = b := by
  unfold shownType at h
  split at h <;> split at h <;> simp_all

namespace Request

variable {headers : List Param} {text : String}

theorem bodyOf_of_ne_empty (nonempty : text ≠ "") :
    bodyOf headers text = ⟨(contentType? headers).getD defaultMimeType, some text⟩ :=
  if_neg nonempty

end Request

theorem contentType?_eq_none_iff {headers : List Param} :
    contentType? headers = none ↔ ∀ p ∈ headers, isContentType p = false := by
  simp [contentType?]

theorem contentType?_eq_some_iff {headers : List Param} {type : String} :
    contentType? headers = some type ↔
      ∃ before p after, headers = before ++ p :: after ∧
        (∀ q ∈ before, isContentType q = false) ∧ isContentType p = true ∧ p.value = type := by
  unfold contentType?
  rw [Option.map_eq_some_iff]
  constructor
  · rintro ⟨p, found, rfl⟩
    obtain ⟨typed, before, after, rfl, none_before⟩ := List.find?_eq_some_iff_append.mp found
    exact ⟨before, p, after, rfl, by simpa using none_before, typed, rfl⟩
  · rintro ⟨before, p, after, rfl, none_before, typed, rfl⟩
    refine ⟨p, List.find?_eq_some_iff_append.mpr ⟨typed, before, after, rfl, ?_⟩, rfl⟩
    simpa using none_before

namespace Outgoing

variable {headers : List Param} {text type : String}

theorem headersFor_of_typed (typed : contentType? headers = some type) (data : PostData) :
    headersFor headers data = headers := by
  obtain ⟨before, p, after, rfl, -, isType, -⟩ := contentType?_eq_some_iff.mp typed
  simp [headersFor, isType]

theorem headersFor_of_untyped (untyped : contentType? headers = none) (known : type ≠ "") :
    headersFor headers ⟨type, some text⟩ = headers ++ [⟨"content-type", type⟩] := by
  have missing : ¬ headers.any isContentType := by
    simpa using contentType?_eq_none_iff.mp untyped
  simp [headersFor, missing, known]

theorem headersFor_bodyOf_of_ne_empty (headers : List Param) (nonempty : text ≠ "") :
    ∃ added, headersFor headers (Request.bodyOf headers text) = headers ++ added ∧
      added.length ≤ 1 ∧
      (added ≠ [] ↔ ∀ p ∈ headers, isContentType p = false) ∧
      contentType? (headers ++ added) = some (Request.bodyOf headers text).mimeType := by
  rw [Request.bodyOf_of_ne_empty nonempty, ← contentType?_eq_none_iff]
  cases typed : contentType? headers with
  | some type =>
    refine ⟨[], ?_, Nat.zero_le 1, by simp, ?_⟩
    · rw [headersFor_of_typed typed, List.append_nil]
    · rw [List.append_nil, typed, Option.getD_some]
  | none =>
    have known : defaultMimeType ≠ "" := by decide
    refine ⟨[⟨"content-type", defaultMimeType⟩], headersFor_of_untyped typed known, Nat.le_refl 1,
      by simp, ?_⟩
    rw [contentType?_eq_some_iff]
    exact ⟨headers, _, [], rfl, contentType?_eq_none_iff.mp typed, by decide, rfl⟩

end Outgoing

namespace Request

variable {url method : String} {query headers : Option Params} {body : Option String}

theorem postData_build : (build url method query headers body).postData =
    bodyOf (build url method query headers body).headers (body.getD "") := rfl

end Request

/-- Without a body, or with an empty one, the headers of the caller are sent as they are, and no
snippet carries a type. With a body at most one header is added, and that just if the caller gives
no content type; the first content type among the headers is the type of the body, and every
snippet carries it unless it is empty. -/
theorem type_of_body_agrees {url method : String} {targets : List String}
    {query headers : Option Params} {body : Option String} {b : Bundle}
    (rendered : generate url method targets query headers body = .ok b) :
    ∃ request r, request = Request.build url method query headers body ∧
      request.headers = (headers.map Params.toList).getD [] ∧
      Outgoing.ofRequest request = .ok r ∧
      List.Forall₂ (fun id s => s.Shows r id) targets b.snippets ∧
      (body = none ∨ body = some "" → request.postData.text = none ∧ r.hasBody = false ∧
        r.headers = request.headers ∧ ∀ s ∈ b.snippets, s.mimeType = none) ∧
      ∀ text, body = some text → text ≠ "" → request.postData.text = some text ∧
        (r.hasBody = true ∧ r.body = text ∧ r.mimeType = request.postData.mimeType) ∧
        (∃ added, r.headers = request.headers ++ added ∧ added.length ≤ 1 ∧
          (added ≠ [] ↔ ∀ p ∈ request.headers, isContentType p = false)) ∧
        (∃ before p after, r.headers = before ++ p :: after ∧
          (∀ q ∈ before, isContentType q = false) ∧ isContentType p = true ∧
          p.value = request.postData.mimeType) ∧
        ∀ s ∈ b.snippets, s.mimeType = shownType request.postData.mimeType := by
  obtain ⟨r, sent, -, -, -, shown⟩ := Request.bundle_eq_ok_iff.mp rendered
  have headers_sent := Outgoing.headers_eq sent
  obtain ⟨body_sent, body_text, -, body_type⟩ := Outgoing.body_eq sent
  have types := mimeType_of_forall₂ shown
  refine ⟨_, r, rfl, rfl, sent, shown.imp fun _ _ h => h.1, ?_, ?_⟩
  · intro absent
    have data : (Request.build url method query headers body).postData = ⟨"", none⟩ := by
      rcases absent with rfl | rfl <;> rfl
    rw [Request.hasBody, data] at body_sent
    rw [data] at headers_sent
    refine ⟨by rw [data], body_sent, headers_sent, ?_⟩
    intro s mem
    rw [types s mem, Request.mimeType?, data]
    rfl
  · rintro text rfl nonempty
    have data : (Request.build url method query headers (some text)).postData.text = some text := by
      rw [Request.postData_build, Option.getD_some, Request.bodyOf_of_ne_empty nonempty]
    rw [Request.hasBody, data] at body_sent
    rw [data] at body_text
    obtain ⟨added, appended, single, missing, first⟩ :=
      Outgoing.headersFor_bodyOf_of_ne_empty
        (Request.build url method query headers (some text)).headers nonempty
    refine ⟨data, ⟨body_sent, body_text, body_type⟩,
      ⟨added, headers_sent.trans appended, single, missing⟩, ?_, types⟩
    rw [← contentType?_eq_some_iff, headers_sent]
    exact (congrArg contentType? appended).trans first

def typedTwice : Params :=
  .ofList [("X-A", .bool true), ("Content-TYPE", .number (.integer 7)),
    ("content-type", .string "b")]

theorem type_of_body_agrees_sample :
    ∃ b r, generate Outgoing.sampleRequest.url "post" ["http", "shell"] none (some typedTwice)
        (some "abc") = .ok b ∧
      Outgoing.ofRequest (.build Outgoing.sampleRequest.url "post" none (some typedTwice)
        (some "abc")) = .ok r ∧
      contentType? r.headers = some "7" ∧ ∀ s ∈ b.snippets, s.mimeType = some "7" := by
  obtain ⟨b, rendered⟩ : ∃ b, generate Outgoing.sampleRequest.url "post" ["http", "shell"] none
      (some typedTwice) (some "abc") = .ok b :=
    Request.bundle_isOk_iff.mpr ⟨⟨_, Outgoing.read_sampleRequest⟩, by decide⟩
  obtain ⟨_, r, rfl, -, sent, -, -, typed⟩ := type_of_body_agrees rendered
  obtain ⟨-, -, -, first, types⟩ := typed "abc" rfl (by decide)
  have type_eq : (Request.build Outgoing.sampleRequest.url "post" none (some typedTwice)
      (some "abc")).postData.mimeType = "7" := by decide +kernel
  rw [type_eq] at first types
  exact ⟨b, r, rendered, sent, contentType?_eq_some_iff.mpr first, types⟩

end RequestCode
